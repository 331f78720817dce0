import ModuleCheck.Text.BreakClass

namespace ModuleCheck

/-!
The places where a line of text may be broken, by the rules of the Unicode line breaking
algorithm.  A rule looks at the class of the character behind a place and at what stands in front
of it: the last character that is neither a space nor a mark attached to another character, and
whether spaces follow it.
-/

namespace Text

namespace LineBreak

/-- What stands in front of a place in a text. -/
structure Context where
  /-- The class of the last character, spaces and attached marks left out. -/
  last : BreakClass
  /-- Whether spaces stand between that character and the place. -/
  spaced : Bool
  /-- Whether a Hebrew letter stands right before that character. -/
  afterHebrew : Bool
  /-- Whether that character is a letter of a flag whose other letter is still to come. -/
  unpaired : Bool
  /-- Whether the place is right behind a zero width joiner. -/
  joined : Bool

/-- The start of a text.  As behind a space, a mark has no character there to attach to. -/
def Context.start : Context := ⟨.space, true, false, false, false⟩

def isMark (kind : BreakClass) : Bool := kind = .combining || kind = .joiner

/-- A mark without a character to attach to is broken like a letter. -/
def asBase (kind : BreakClass) : BreakClass := if isMark kind then .alphabetic else kind

def letters : List BreakClass := [.alphabetic, .hebrew]

def pictures : List BreakClass := [.ideograph, .emojiBase, .emojiModifier]

def syllables : List BreakClass := [.jamoLead, .jamoVowel, .jamoTail, .hangulPair, .hangulTriple]

/-- The classes that are kept together when a character of the first list stands right before one
of the second: words, numbers with their signs, and the letters of a syllable. -/
def unbroken : List (List BreakClass × List BreakClass) :=
  [ ([.solidus], [.hebrew]),
    (letters, [.numeral]),
    ([.numeral], letters),
    ([.beforeNumeral], pictures),
    (pictures, [.afterNumeral]),
    ([.beforeNumeral, .afterNumeral], letters),
    (letters, [.beforeNumeral, .afterNumeral]),
    ([.closing, .closingParenthesis, .numeral], [.beforeNumeral, .afterNumeral]),
    ([.beforeNumeral, .afterNumeral], [.opening, .numeral]),
    ([.hyphen, .separator, .numeral, .solidus], [.numeral]),
    ([.jamoLead], [.jamoLead, .jamoVowel, .hangulPair, .hangulTriple]),
    ([.jamoVowel, .hangulPair], [.jamoVowel, .jamoTail]),
    ([.jamoTail, .hangulTriple], [.jamoTail]),
    (syllables, [.afterNumeral]),
    ([.beforeNumeral], syllables),
    (letters, letters),
    ([.separator], letters),
    (.numeral :: letters, [.opening]),
    ([.closingParenthesis], .numeral :: letters),
    ([.emojiBase], [.emojiModifier]) ]

namespace Context

/-- Whether the place is right behind a character of one of the classes, or behind marks that
are attached to it. -/
def follows (context : Context) (kinds : List BreakClass) : Bool :=
  !context.spaced && kinds.contains context.last

/-- Whether a character of the class is a mark that belongs to the character before it. -/
def attaches (context : Context) (kind : BreakClass) : Bool :=
  isMark kind && !context.spaced &&
    !context.follows [.lineEnd, .carriageReturn, .lineFeed, .zeroWidthSpace]

/-- What stands in front of the place behind one more character. -/
def next (context : Context) (kind : BreakClass) : Context :=
  if context.attaches kind then { context with joined := kind = .joiner }
  else if kind = .space then { context with spaced := true, joined := false }
  else
    { last := asBase kind
      spaced := false
      afterHebrew := context.follows [.hebrew]
      unpaired := kind = .regional && !(context.follows [.regional] && context.unpaired)
      joined := kind = .joiner }

/-- Whether a line may be broken before a character of the class that is neither a mark nor a
space and does not end a line. -/
def allowsBase (context : Context) (kind : BreakClass) : Bool :=
  -- What a space does not set free.
  if kind = .wordJoiner || context.follows [.wordJoiner, .glue] then false
  else if kind = .glue && !context.spaced && !context.follows [.breakAfter, .hyphen] then false
  else if [.closing, .closingParenthesis, .exclamation, .separator, .solidus].contains kind then
    false
  else if context.last = .opening then false
  else if context.last = .quotation && kind = .opening then false
  else if [.closing, .closingParenthesis].contains context.last && kind = .nonstarter then false
  else if context.last = .dash && kind = .dash then false
  else if context.spaced then true
  -- What stands right before the character.
  else if kind = .quotation || context.last = .quotation then false
  else if kind = .contingent || context.last = .contingent then true
  else if [.breakAfter, .hyphen, .nonstarter].contains kind then false
  else if context.last = .breakBefore then false
  else if context.afterHebrew && context.follows [.hyphen, .breakAfter] then false
  else if kind = .inseparable then false
  else if kind = .regional && context.unpaired then false
  else !unbroken.any fun pair => pair.1.contains context.last && pair.2.contains kind

/-- Whether a line may be broken before a character of the class. -/
def allows (context : Context) (kind : BreakClass) : Bool :=
  if context.follows [.lineEnd, .lineFeed] then true
  else if context.follows [.carriageReturn] then kind ≠ .lineFeed
  else if [.lineEnd, .carriageReturn, .lineFeed, .space, .zeroWidthSpace].contains kind then false
  else if context.last = .zeroWidthSpace then true
  else if context.joined || context.attaches kind then false
  else context.allowsBase (asBase kind)

end Context

/-- For each character of a text, whether a line may be broken right behind it, where `context`
is what stands in front of the text.  The end of the text is such a place. -/
def behind (context : Context) : List Char → List Bool
  | [] => []
  | c :: rest =>
    let after := context.next (.ofChar c)
    rest.head?.all (fun d => after.allows (.ofChar d)) :: behind after rest

end LineBreak

end Text

end ModuleCheck
