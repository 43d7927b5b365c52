import TypedSql.Naming.Title
import TypedSql.Text.Uppercase

/-!
# Singular words

English plurals are recognized by their endings, without regard to the case of
Latin letters. The first ending that fits is replaced; words without plural and
words without a fitting ending stay.
-/

namespace TypedSql.Naming

/-- A plural ending and the ending that takes its place. -/
structure Ending where
  plural : String
  singular : String
  deriving DecidableEq

/-- Endings of words that have no plural. -/
def uncountableEndings : List String :=
  ["equipment", "information", "rice", "money", "species", "series", "fish",
   "sheep", "jeans", "police", "news"]

def irregularEndings : List Ending :=
  [⟨"people", "person"⟩, ⟨"children", "child"⟩, ⟨"women", "woman"⟩,
   ⟨"men", "man"⟩, ⟨"teeth", "tooth"⟩, ⟨"feet", "foot"⟩, ⟨"geese", "goose"⟩,
   ⟨"mice", "mouse"⟩, ⟨"lice", "louse"⟩]

/-- Regular plural endings, the most specific first. -/
def regularEndings : List Ending :=
  [⟨"quizzes", "quiz"⟩, ⟨"matrices", "matrix"⟩, ⟨"vertices", "vertex"⟩,
   ⟨"indices", "index"⟩, ⟨"oxen", "ox"⟩, ⟨"aliases", "alias"⟩,
   ⟨"alias", "alias"⟩, ⟨"statuses", "status"⟩, ⟨"status", "status"⟩,
   ⟨"octopi", "octopus"⟩, ⟨"viri", "virus"⟩, ⟨"crises", "crisis"⟩,
   ⟨"theses", "thesis"⟩, ⟨"analyses", "analysis"⟩, ⟨"axes", "axis"⟩,
   ⟨"shoes", "shoe"⟩, ⟨"buses", "bus"⟩, ⟨"movies", "movie"⟩, ⟨"oes", "o"⟩,
   ⟨"xes", "x"⟩, ⟨"ches", "ch"⟩, ⟨"shes", "sh"⟩, ⟨"sses", "ss"⟩, ⟨"ies", "y"⟩,
   ⟨"lves", "lf"⟩, ⟨"rves", "rf"⟩, ⟨"tives", "tive"⟩, ⟨"hives", "hive"⟩,
   ⟨"ves", "fe"⟩, ⟨"sis", "sis"⟩, ⟨"ss", "ss"⟩, ⟨"us", "us"⟩, ⟨"s", ""⟩]

/-- Whether a word ends with a text, up to the case of Latin letters in the
word. -/
def endsWithLatin (word ending : List Char) : Bool :=
  ending.isSuffixOf (word.map Char.toLower)

namespace Ending

def matchesEnd (ending : Ending) (word : List Char) : Bool :=
  endsWithLatin word ending.plural.toList

/-- Whether a word ends with the plural and is not only a plural of at most
three letters. -/
def fits (ending : Ending) (word : List Char) : Bool :=
  ending.matchesEnd word &&
    (ending.plural.length < word.length || 3 < ending.plural.length)

/-- The part of a word before the plural ending. -/
def stem (ending : Ending) (word : List Char) : List Char :=
  word.take (word.length - ending.plural.length)

/-- The part of a word that the plural ending covers. -/
def matched (ending : Ending) (word : List Char) : List Char :=
  word.drop (word.length - ending.plural.length)

/-- The singular ending for a covered part: a title if the part starts with an
uppercase letter. -/
def replacement (ending : Ending) (matched : List Char) : List Char :=
  if matched.head?.any Text.isUppercase then
    titleChars ending.singular.toList
  else
    ending.singular.toList

/-- Puts the singular ending in the place of the plural one. -/
def apply (ending : Ending) (word : List Char) : List Char :=
  ending.stem word ++ ending.replacement (ending.matched word)

end Ending

/-- Whether a word ends like a word without plural. -/
def isUncountable (word : List Char) : Bool :=
  uncountableEndings.any fun ending => endsWithLatin word ending.toList

def ending? (word : List Char) : Option Ending :=
  if isUncountable word then
    none
  else
    irregularEndings.find? (fun ending => ending.matchesEnd word) <|>
      regularEndings.find? fun ending => ending.fits word

/-- The singular of the last word of an identifier. -/
def singularize (word : String) : String :=
  match ending? word.toList with
  | none => word
  | some ending => String.ofList (ending.apply word.toList)

end TypedSql.Naming
