import WireShapes.Pattern.CharSet
import WireShapes.Text.Property.Binary
import WireShapes.Text.Property.CaseMap
import WireShapes.Text.Property.Category
import WireShapes.Text.Property.Script

/-!
Sets of characters by the name of a property.

* `CharSet.ofProperty?`: a property that a character has or has not, a general category or a script
* `CharSet.ofPropertyValue?`: a category or a script by the name of the property and its value

Names are compared without case, blanks, hyphens and underscores, and without a leading `is`.
-/

namespace WireShapes.Pattern

/-- A property name as it is compared. A lone `c` after `is` names no category. -/
def propertyKey (name : List Char) : String :=
  let plain := fun (cs : List Char) =>
    String.ofList ((cs.filter fun c =>
      c != ' ' && c != '-' && c != '_' && c.toNat < 128).map Char.toLower)
  match name with
  | a :: b :: rest =>
    if a.toLower = 'i' ∧ b.toLower = 's' then
      if plain rest = "c" then "isc" else plain rest
    else plain name
  | _ => plain name

namespace CharSet

/-- The characters of a category that has a table. -/
def category? (key : String) : Option CharSet :=
  (Text.categories.find? fun c => c.1.contains key).map fun c => ofRanges c.2.ranges

/-- The union of categories, by their short names. -/
def categoriesOf (keys : List String) : CharSet := unionAll (keys.filterMap category?)

/-- Code points without a character; surrogates do not count among them. -/
def unassigned : CharSet :=
  (ofRanges ((0xD800, 0xDFFF) :: Text.categories.flatMap fun c => c.2.ranges)).compl

/-- The characters of a general category or of a union of such. -/
def ofCategory? (key : String) : Option CharSet :=
  match key with
  | "any" => some all
  | "ascii" => some ascii
  | "assigned" => some unassigned.compl
  | "cn" | "unassigned" => some unassigned
  | "c" | "other" => some ((categoriesOf ["cc", "cf", "co"]).union unassigned)
  | _ =>
    match Text.categoryGroups.find? fun g => g.1.contains key with
    | some g => some (categoriesOf g.2)
    | Option.none => category? key

def ofScript? (key : String) : Option CharSet :=
  (Text.scripts.find? fun s => s.names.contains key).map fun s => ofRanges s.ranges

/-- The characters that a script uses, those that it shares with others among them. -/
def ofScriptExtensions? (key : String) : Option CharSet :=
  (Text.scripts.find? fun s => s.names.contains key).map fun s =>
    (ofRanges s.ranges).symm (ofRanges s.extensions)

def capitals : CharSet := (categoriesOf ["lu"]).union (ofRanges Text.otherCapitals)
def smalls : CharSet := (categoriesOf ["ll"]).union (ofRanges Text.otherSmall)

def alphabetic : CharSet :=
  (ofRanges Text.alphanumericRanges).diff (categoriesOf ["nd", "no"])

def idStart : CharSet :=
  ((categoriesOf ["lu", "ll", "lt", "lm", "lo", "nl"]).union (ofRanges Text.idStartExtra)).diff
    (ofRanges Text.patternSymbols)

def idContinue : CharSet :=
  unionAll [idStart, categoriesOf ["mn", "mc", "nd", "pc"], ofRanges Text.idContinueExtra]

/-- The code points that a case map changes. -/
def changed (runs : List Text.CaseRun) (lists : List (Nat × List Nat)) : CharSet :=
  let listed := lists.map fun l => (l.1, l.1)
  let runPoints := runs.flatMap fun r =>
    (List.range ((r.last - r.first) / r.step + 1)).map fun i =>
      (r.first + i * r.step, r.first + i * r.step)
  ofRanges (listed ++ runPoints)

def changedByLowering : CharSet := changed Text.smallRuns Text.smallLists
def changedByRaising : CharSet := changed Text.capitalRuns Text.capitalLists

def changedByTitling : CharSet :=
  (changedByRaising.diff (ofRanges Text.capitalOnly)).union (ofRanges Text.titleOnly)

/-- The characters with a property that is there or not. -/
def ofBinary? (key : String) : Option CharSet :=
  let table := fun (ranges : List (Nat × Nat)) => some (ofRanges ranges)
  match key with
  | "alphabetic" | "alpha" => some alphabetic
  | "asciihexdigit" | "ahex" => some ⟨[(48, 57), (65, 70), (97, 102)]⟩
  | "bidicontrol" | "bidic" => table Text.bidiControls
  | "bidimirrored" | "bidim" => table Text.mirrored
  | "cased" => some (unionAll [capitals, smalls, categoriesOf ["lt"]])
  | "caseignorable" | "ci" =>
    some ((categoriesOf ["mn", "me", "cf", "lm", "sk"]).union (ofRanges Text.caseIgnorableExtra))
  | "changeswhencasefolded" | "cwcf" =>
    some ((changedByLowering.diff (ofRanges Text.lowerOnly)).union (ofRanges Text.foldOnly))
  | "changeswhencasemapped" | "cwcm" =>
    some (unionAll [changedByLowering, changedByRaising, changedByTitling])
  | "changeswhenlowercased" | "cwl" => some changedByLowering
  | "changeswhentitlecased" | "cwt" => some changedByTitling
  | "changeswhenuppercased" | "cwu" => some changedByRaising
  | "dash" => table Text.dashLike
  | "defaultignorablecodepoint" | "di" => table Text.defaultIgnorable
  | "deprecated" | "dep" => table Text.deprecatedPoints
  | "diacritic" | "dia" => table Text.diacritics
  | "emoji" => table Text.emoji
  | "emojicomponent" | "ecomp" => table Text.emojiComponents
  | "emojimodifier" | "emod" => table Text.emojiModifiers
  | "emojimodifierbase" | "ebase" => table Text.emojiModifierBases
  | "emojipresentation" | "epres" => table Text.emojiPresentation
  | "extendedpictographic" | "extpict" => table Text.pictographs
  | "extender" | "ext" => table Text.extenders
  | "graphemebase" | "grbase" =>
    some (unionAll [categoriesOf ["cc", "cf", "co", "zl", "zp"], unassigned,
      ofRanges Text.extenderRanges]).compl
  | "graphemeextend" | "grext" => table Text.extenderRanges
  | "hexdigit" | "hex" => table Text.hexDigits
  | "idcontinue" | "idc" => some idContinue
  | "idsbinaryoperator" | "idsb" => table Text.binaryDescriptions
  | "idstrinaryoperator" | "idst" => table Text.ternaryDescriptions
  | "idstart" | "ids" => some idStart
  | "ideographic" | "ideo" => table Text.ideographs
  | "joincontrol" | "joinc" => table Text.joinControls
  | "logicalorderexception" | "loe" => table Text.logicalOrderExceptions
  | "lowercase" | "lower" => some smalls
  | "math" => some ((categoriesOf ["sm"]).union (ofRanges Text.mathExtra))
  | "noncharactercodepoint" | "nchar" => table Text.noncharacters
  | "patternsyntax" | "patsyn" => table Text.patternSymbols
  | "patternwhitespace" | "patws" => table Text.patternSpaces
  | "quotationmark" | "qmark" => table Text.quotationMarks
  | "radical" => table Text.radicals
  | "regionalindicator" | "ri" => table Text.regionalIndicators
  | "sentenceterminal" | "sterm" => table Text.sentenceEnds
  | "softdotted" | "sd" => table Text.softDotted
  | "terminalpunctuation" | "term" => table Text.terminalMarks
  | "unifiedideograph" | "uideo" => table Text.unifiedIdeographs
  | "uppercase" | "upper" => some capitals
  | "variationselector" | "vs" => table Text.variationSelectors
  | "whitespace" | "wspace" | "space" => some spaces
  | "xidcontinue" | "xidc" => some (idContinue.diff (ofRanges Text.notXidContinue))
  | "xidstart" | "xids" => some (idStart.diff (ofRanges Text.notXidStart))
  | _ => Option.none

/-- The characters of a property, a general category or a script. -/
def ofProperty? (name : List Char) : Option CharSet :=
  let key := propertyKey name
  ofBinary? key <|> ofCategory? key <|> ofScript? key

/-- The characters for which a property has a value. -/
def ofPropertyValue? (name value : List Char) : Option CharSet :=
  let key := propertyKey value
  match propertyKey name with
  | "gc" | "generalcategory" => ofCategory? key
  | "sc" | "script" => ofScript? key
  | "scx" | "scriptextensions" => ofScriptExtensions? key
  | _ => Option.none

end CharSet

end WireShapes.Pattern
