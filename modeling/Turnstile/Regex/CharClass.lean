import Turnstile.Unicode.Category
import Turnstile.Unicode.Script
import Turnstile.Unicode.Property
import Turnstile.Unicode.Further
import Turnstile.Unicode.Valued
import Turnstile.Unicode.CaseFold

/-! Sets of characters, as written in an expression. -/
namespace Turnstile.Regex

open Unicode

inductive Trait where
  | alphabetic | lowercase | uppercase | whiteSpace | cased | caseIgnorable
  | idStart | idContinue | math | dash | hexDigit | ideographic | emoji | graphemeExtend
  | further (index : Nat)
deriving DecidableEq, Repr

def Trait.holds : Trait → Char → Bool
  | alphabetic => isAlphabetic
  | lowercase => isLowercase
  | uppercase => isUppercase
  | whiteSpace => isWhiteSpace
  | cased => isCased
  | caseIgnorable => isCaseIgnorable
  | idStart => isIdStart
  | idContinue => isIdContinue
  | math => isMath
  | dash => isDash
  | hexDigit => isHexDigit
  | ideographic => isIdeographic
  | emoji => isEmoji
  | graphemeExtend => isGraphemeExtend
  | further i => Further.holds i

/-- Where texts break. -/
inductive TextBreak where
  | grapheme | word | sentence
deriving DecidableEq, Repr

def TextBreak.property : TextBreak → Valued
  | grapheme => .graphemeBreak
  | word => .wordBreak
  | sentence => .sentenceBreak

inductive CharClass where
  | empty
  | range (low high : Char)
  | category (c : Category)
  /-- All categories whose names start with this letter. -/
  | major (letter : String)
  | script (index : Nat)
  /-- Characters of a script, and those that it shares with other ones. -/
  | usedBy (script : Nat)
  /-- Characters that were assigned in a version or an earlier one. -/
  | assignedBy (version : Nat)
  | breaking (b : TextBreak) (value : Nat)
  | trait (t : Trait)
  | union (a b : CharClass)
  | inter (a b : CharClass)
  | diff (a b : CharClass)
  | symmDiff (a b : CharClass)
  | compl (a : CharClass)
  /-- Contains every case variant of a member. -/
  | anyCase (a : CharClass)
  | anyAsciiCase (a : CharClass)
deriving DecidableEq, Repr

namespace CharClass

def asciiVariants (c : Char) : List Char :=
  if c.isUpper then [c, c.toLower] else if c.isLower then [c, c.toUpper] else [c]

def mem : CharClass → Char → Bool
  | empty, _ => false
  | range low high, c => low ≤ c && c ≤ high
  | category k, c => Category.ofChar c = k
  | major l, c => (Category.ofChar c).major = l
  | script i, c => Script.ofChar c = some i
  | usedBy i, c => Script.uses i c
  | assignedBy v, c => (Valued.age.ofChar c).any (· ≤ v)
  | breaking b v, c => b.property.ofChar c = some v
  | trait t, c => t.holds c
  | union a b, c => a.mem c || b.mem c
  | inter a b, c => a.mem c && b.mem c
  | diff a b, c => a.mem c && !b.mem c
  | symmDiff a b, c => a.mem c != b.mem c
  | compl a, c => !a.mem c
  | anyCase a, c => (caseVariants c).any a.mem
  | anyAsciiCase a, c => (asciiVariants c).any a.mem

def single (c : Char) : CharClass := range c c

def any : CharClass := compl empty

def unions (l : List CharClass) : CharClass := l.foldl union empty

def ofRanges (l : List (Char × Char)) : CharClass := unions (l.map fun r => range r.1 r.2)

/-- Decimal digits of every script. -/
def digit : CharClass := category .decimalNumber

def space : CharClass := trait .whiteSpace

/-- Letters, marks, digits, connectors and the two joiners. -/
def word : CharClass :=
  unions [trait .alphabetic, major "M", digit, category .connectorPunctuation,
    range '\u200c' '\u200d']

def asciiDigit : CharClass := range '0' '9'

def asciiSpace : CharClass := ofRanges [('\t', '\r'), (' ', ' ')]

def asciiWord : CharClass := ofRanges [('0', '9'), ('A', 'Z'), ('_', '_'), ('a', 'z')]

/-- The named classes that are written between `[:` and `:]`. -/
def posix? (name : String) : Option CharClass :=
  match name with
  | "alnum" => some (ofRanges [('0', '9'), ('A', 'Z'), ('a', 'z')])
  | "alpha" => some (ofRanges [('A', 'Z'), ('a', 'z')])
  | "ascii" => some (range '\x00' '\x7f')
  | "blank" => some (ofRanges [('\t', '\t'), (' ', ' ')])
  | "cntrl" => some (ofRanges [('\x00', '\x1f'), ('\x7f', '\x7f')])
  | "digit" => some asciiDigit
  | "graph" => some (range '!' '~')
  | "lower" => some (range 'a' 'z')
  | "print" => some (range ' ' '~')
  | "punct" => some (ofRanges [('!', '/'), (':', '@'), ('[', '`'), ('\x7b', '~')])
  | "space" => some asciiSpace
  | "upper" => some (range 'A' 'Z')
  | "word" => some asciiWord
  | "xdigit" => some (ofRanges [('0', '9'), ('A', 'F'), ('a', 'f')])
  | _ => none

/-- Lower case without blanks, hyphens, underscores and a leading `is`. -/
def normalName (s : String) : String :=
  let cs := (s.toList.map Char.toLower).filter fun c =>
    c.toNat < 128 && c ≠ ' ' && c ≠ '-' && c ≠ '_' && !c.isWhitespace
  match cs with
  | 'i' :: 's' :: r => if r = ['c'] then "isc" else .ofList r
  | cs => .ofList cs

def traitNamed? (name : String) : Option Trait :=
  match name with
  | "alphabetic" | "alpha" => some .alphabetic
  | "lowercase" | "lower" => some .lowercase
  | "uppercase" | "upper" => some .uppercase
  | "whitespace" | "wspace" | "space" => some .whiteSpace
  | "cased" => some .cased
  | "caseignorable" | "ci" => some .caseIgnorable
  | "idstart" | "ids" => some .idStart
  | "idcontinue" | "idc" => some .idContinue
  | "math" => some .math
  | "dash" => some .dash
  | "hexdigit" | "hex" => some .hexDigit
  | "ideographic" | "ideo" => some .ideographic
  | "emoji" => some .emoji
  | "graphemeextend" | "grext" => some .graphemeExtend
  | name => (Further.byName? name).map .further

def longNames : List (String × Category) :=
  [("uppercaseletter", .uppercaseLetter), ("lowercaseletter", .lowercaseLetter),
   ("titlecaseletter", .titlecaseLetter), ("modifierletter", .modifierLetter),
   ("otherletter", .otherLetter), ("nonspacingmark", .nonspacingMark),
   ("spacingmark", .spacingMark), ("enclosingmark", .enclosingMark),
   ("decimalnumber", .decimalNumber), ("digit", .decimalNumber),
   ("letternumber", .letterNumber), ("othernumber", .otherNumber),
   ("connectorpunctuation", .connectorPunctuation), ("dashpunctuation", .dashPunctuation),
   ("openpunctuation", .openPunctuation), ("closepunctuation", .closePunctuation),
   ("initialpunctuation", .initialPunctuation), ("finalpunctuation", .finalPunctuation),
   ("otherpunctuation", .otherPunctuation), ("mathsymbol", .mathSymbol),
   ("currencysymbol", .currencySymbol), ("modifiersymbol", .modifierSymbol),
   ("othersymbol", .otherSymbol), ("spaceseparator", .spaceSeparator),
   ("lineseparator", .lineSeparator), ("paragraphseparator", .paragraphSeparator),
   ("control", .control), ("cntrl", .control), ("format", .format),
   ("privateuse", .privateUse), ("unassigned", .unassigned)]

def majorNames : List (String × String) :=
  [("l", "L"), ("letter", "L"), ("m", "M"), ("mark", "M"), ("combiningmark", "M"),
   ("n", "N"), ("number", "N"), ("p", "P"), ("punctuation", "P"), ("punct", "P"),
   ("s", "S"), ("symbol", "S"), ("z", "Z"), ("separator", "Z"), ("c", "C"), ("other", "C")]

def categoryNamed? (name : String) : Option CharClass :=
  match name with
  | "any" => some any
  | "assigned" => some (compl (category .unassigned))
  | "ascii" => some (range '\x00' '\x7f')
  | "lc" | "casedletter" =>
    some (unions [category .uppercaseLetter, category .lowercaseLetter, category .titlecaseLetter])
  | _ =>
    match majorNames.lookup name, longNames.lookup name,
        Category.all.find? (fun c => (c.name.toList.map Char.toLower) = name.toList) with
    | some l, _, _ => some (major l)
    | none, some c, _ => some (category c)
    | none, none, some c => if c = .surrogate then none else some (category c)
    | none, none, none => none

def scriptNamed? (name : String) : Option CharClass := (Script.byName? name).map script

/-- The room that a compiled class takes, in words. For larger classes this is an estimate. -/
def room : CharClass → Nat
  | empty => 4
  | range low high =>
    if low = high then 4 * low.utf8Size else if high.toNat < 128 then 9 else 52
  | category .decimalNumber => 174
  | category _ => 600
  | major "L" => 2191
  | major _ => 700
  | script _ | usedBy _ => 150
  | assignedBy _ => 2000
  | breaking _ _ => 600
  | trait .whiteSpace => 53
  | trait .alphabetic => 2200
  | trait _ => 1000
  | union a b =>
    let a := a.room
    let b := b.room
    if max a b < 60 then max (max a b + 1) 10 else max a b + min a b / 8
  | inter a b | diff a b | symmDiff a b => max a.room b.room
  | compl a => a.room + 49
  | anyCase a => a.room + a.room / 8 + 6
  | anyAsciiCase a => a.room + 6

/-- The class that a property name denotes, or a pair of property and value. -/
def named? (name : String) : Option CharClass :=
  let name := normalName name
  match (if name = "cf" || name = "sc" || name = "lc" then none else traitNamed? name) with
  | some t => some (trait t)
  | none => (categoryNamed? name).orElse fun _ => scriptNamed? name

def namedValue? (property value : String) : Option CharClass :=
  let value := normalName value
  match normalName property with
  | "gc" | "generalcategory" => categoryNamed? value
  | "sc" | "script" => scriptNamed? value
  | "scx" | "scriptextensions" => (Script.byName? value).map usedBy
  | "age" => (Valued.age.byName? value).map assignedBy
  | "gcb" | "graphemeclusterbreak" => (TextBreak.grapheme.property.byName? value).map (breaking .grapheme)
  | "wb" | "wordbreak" => (TextBreak.word.property.byName? value).map (breaking .word)
  | "sb" | "sentencebreak" => (TextBreak.sentence.property.byName? value).map (breaking .sentence)
  | _ => none

end CharClass
end Turnstile.Regex
