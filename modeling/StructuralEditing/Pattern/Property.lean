import StructuralEditing.Unicode.Segmentation

/-!
# Properties by name

The sets of characters that a pattern can ask for by the name of a property, or by a property and one of its values. Case,
blanks, hyphens, underscores and a leading `is` do not distinguish names.
-/

namespace StructuralEditing.CharProperty

open Unicode SetRule

/-- The names of general categories, short and long, with the categories they stand for. -/
def categoryNames : List NamedRule := [
  (["l", "letter"], letters), (["lc", "casedletter"], categories [.lu, .ll, .lt]),
  (["lu", "uppercaseletter"], categories [.lu]), (["ll", "lowercaseletter"], categories [.ll]),
  (["lt", "titlecaseletter"], categories [.lt]), (["lm", "modifierletter"], categories [.lm]),
  (["lo", "otherletter"], categories [.lo]),
  (["m", "mark", "combiningmark"], marks), (["mn", "nonspacingmark"], categories [.mn]),
  (["mc", "spacingmark"], categories [.mc]), (["me", "enclosingmark"], categories [.me]),
  (["n", "number"], categories [.nd, .nl, .no]), (["nd", "decimalnumber", "digit"], decimalDigit),
  (["nl", "letternumber"], categories [.nl]), (["no", "othernumber"], categories [.no]),
  (["p", "punctuation", "punct"], categories [.pc, .pd, .ps, .pe, .pi, .pf, .po]),
  (["pc", "connectorpunctuation"], categories [.pc]), (["pd", "dashpunctuation"], categories [.pd]),
  (["ps", "openpunctuation"], categories [.ps]), (["pe", "closepunctuation"], categories [.pe]),
  (["pi", "initialpunctuation"], categories [.pi]), (["pf", "finalpunctuation"], categories [.pf]),
  (["po", "otherpunctuation"], categories [.po]),
  (["s", "symbol"], categories [.sm, .sc, .sk, .so]), (["sm", "mathsymbol"], categories [.sm]),
  (["sc", "currencysymbol"], categories [.sc]), (["sk", "modifiersymbol"], categories [.sk]),
  (["so", "othersymbol"], categories [.so]),
  (["z", "separator"], categories [.zs, .zl, .zp]), (["zs", "spaceseparator"], categories [.zs]),
  (["zl", "lineseparator"], categories [.zl]), (["zp", "paragraphseparator"], categories [.zp]),
  (["c", "other"], categories [.cc, .cf, .co, .cn]), (["cc", "control", "cntrl"], categories [.cc]),
  (["cf", "format"], categories [.cf]), (["co", "privateuse"], categories [.co]), (["cn", "unassigned"], categories [.cn]),
  (["any"], listed ["0-10FFFF"]), (["ascii"], listed ["0-7F"]),
  (["assigned"], listed ["0-10FFFF"] \ categories [.cn])]

/-- The names of the properties that a character has or has not. -/
def binaryNames : List NamedRule := [
  (["ahex", "asciihexdigit"], listed Lists.asciiHexDigits), (["alpha", "alphabetic"], alphabetic),
  (["bidic", "bidicontrol"], listed Lists.bidiControls), (["bidim", "bidimirrored"], listed Lists.mirrored),
  (["ci", "caseignorable"], caseIgnorable), (["cased"], cased),
  (["cwcf", "changeswhencasefolded"], changedByFolding), (["cwcm", "changeswhencasemapped"], changedByCasing),
  (["cwl", "changeswhenlowercased"], changedByLowering), (["cwt", "changeswhentitlecased"], changedInTitles),
  (["cwu", "changeswhenuppercased"], changedByRaising),
  (["dash"], listed Lists.dashes), (["di", "defaultignorablecodepoint"], listed Lists.ignorable),
  (["dep", "deprecated"], listed Lists.deprecated), (["dia", "diacritic"], listed Lists.diacritics),
  (["ebase", "emojimodifierbase"], listed Lists.emojiModifierBases),
  (["ecomp", "emojicomponent"], listed Lists.emojiComponents), (["emod", "emojimodifier"], listed Lists.emojiModifiers),
  (["emoji"], listed Lists.emoji), (["epres", "emojipresentation"], listed Lists.emojiPresentation),
  (["ext", "extender"], listed Lists.extenders), (["extpict", "extendedpictographic"], listed Lists.pictographs),
  (["grbase", "graphemebase"], graphemeBase), (["grext", "graphemeextend"], graphemeExtend),
  (["grlink", "graphemelink"], listed Lists.graphemeLinks), (["hex", "hexdigit"], listed Lists.hexDigits),
  (["hyphen"], listed Lists.hyphens), (["idsb", "idsbinaryoperator"], listed Lists.binaryDescriptions),
  (["idst", "idstrinaryoperator"], listed Lists.ternaryDescriptions),
  (["idsu", "idsunaryoperator"], listed Lists.unaryDescriptions),
  (["idcompatmathstart"], listed Lists.mathStarts),
  (["idcompatmathcontinue"], listed Lists.mathStarts ∪ listed Lists.mathContinues),
  (["idc", "idcontinue"], identifierContinue), (["ids", "idstart"], identifierStart),
  (["ideo", "ideographic"], listed Lists.ideographs), (["joinc", "joincontrol"], listed ["200C-200D"]),
  (["loe", "logicalorderexception"], listed Lists.logicalOrderExceptions), (["lower", "lowercase"], lowercase),
  (["math"], mathematical), (["mcm", "modifiercombiningmark"], listed Lists.modifierCombiningMarks),
  (["nchar", "noncharactercodepoint"], listed Lists.noncharacters), (["oalpha", "otheralphabetic"], otherAlphabetic),
  (["odi", "otherdefaultignorablecodepoint"], listed Lists.otherIgnorable),
  (["ogrext", "othergraphemeextend"], listed Lists.otherGraphemeExtend),
  (["oidc", "otheridcontinue"], listed Lists.otherContinues), (["oids", "otheridstart"], listed Lists.otherStarts),
  (["olower", "otherlowercase"], ranges smallSymbols), (["omath", "othermath"], listed Lists.otherMath),
  (["oupper", "otheruppercase"], ranges capitalSymbols), (["patsyn", "patternsyntax"], listed Lists.patternSyntax),
  (["patws", "patternwhitespace"], listed Lists.patternBlanks),
  (["pcm", "prependedconcatenationmark"], listed Lists.prependedMarks),
  (["qmark", "quotationmark"], listed Lists.quotationMarks), (["radical"], listed Lists.radicals),
  (["ri", "regionalindicator"], listed Lists.regionalIndicators),
  (["sterm", "sentenceterminal"], listed Lists.sentenceTerminals), (["sd", "softdotted"], listed Lists.softDotted),
  (["term", "terminalpunctuation"], listed Lists.terminalPunctuation),
  (["uideo", "unifiedideograph"], listed Lists.unifiedIdeographs), (["upper", "uppercase"], uppercase),
  (["vs", "variationselector"], listed Lists.variationSelectors), (["whitespace", "wspace", "space"], whitespace),
  (["xidc", "xidcontinue"], stableIdentifierContinue), (["xids", "xidstart"], stableIdentifierStart)]

/-- A name without what does not distinguish names. The name `isc` is a name of its own, and not that of the category `c`. -/
def plainName (name : List Char) : String :=
  let plain (cs : List Char) : List Char :=
    (cs.filter fun c => !(List.contains [' ', '_', '-'] c) && decide (c.toNat < 128)).map Char.toLower
  let stripped : Option (List Char) :=
    match name with
    | i :: s :: rest => if i.toLower == 'i' && s.toLower == 's' then some (plain rest) else none
    | _ => none
  match stripped with
  | some ['c'] => "isc"
  | some letters => String.ofList letters
  | none => String.ofList (plain name)

/-- The set that a table gives a name. -/
def lookUp? (table : List NamedRule) (name : String) : Option Spans :=
  (table.find? fun row => row.1.contains name).map fun row => row.2.spans

/-- The script of a name, by its code or in full; two scripts have another code besides. -/
def scriptNamed? (name : String) : Option ScriptRow :=
  let code := if name == "qaac" then "copt" else if name == "qaai" then "zinh" else name
  scripts.find? fun row => plainName row.code.toList == code || plainName row.name.toList == name

/-- The set of a property that needs no value, of a general category or of a script. -/
def named? (name : String) : Option Spans :=
  let binary := if ["cf", "sc", "lc"].contains name then none else lookUp? binaryNames name
  binary.or <| (lookUp? categoryNames name).or <| (scriptNamed? name).map ScriptRow.members

/-- The edition that the value of an age names. -/
def edition (value : String) : String :=
  match value.toList with
  | 'v' :: digits =>
    match digits.reverse with
    | minor :: major => s!"{String.ofList major.reverse}.{minor}"
    | [] => value
  | _ => value

/-- The set of the characters for which a property has a value. -/
def valued? (property value : String) : Option Spans :=
  if ["gc", "generalcategory"].contains property then lookUp? categoryNames value
  else if ["sc", "script"].contains property then (scriptNamed? value).map ScriptRow.members
  else if ["scx", "scriptextensions"].contains property then (scriptNamed? value).map ScriptRow.users
  else if property == "age" then assignedBy? (edition value)
  else if ["gcb", "graphemeclusterbreak"].contains property then classOf? clusterClasses value
  else if ["wb", "wordbreak"].contains property then classOf? wordClasses value
  else if ["sb", "sentencebreak"].contains property then classOf? sentenceClasses value
  else none

/-- Splits a text at the first place where another text stands. -/
def splitAt? (separator : List Char) : List Char → Option (List Char × List Char)
  | [] => none
  | c :: t =>
    if separator.isPrefixOf (c :: t) then some ([], (c :: t).drop separator.length)
    else (splitAt? separator t).map fun (before, after) => (c :: before, after)

/-- The set that the text between the braces of a property stands for, and whether everything else is asked for instead. -/
def ofText? (t : List Char) : Option (Spans × Bool) :=
  match splitAt? ['!', '='] t, splitAt? [':'] t, splitAt? ['='] t with
  | some (property, value), _, _ => (valued? (plainName property) (plainName value)).map fun s => (s, true)
  | none, some (property, value), _ => (valued? (plainName property) (plainName value)).map fun s => (s, false)
  | none, none, some (property, value) => (valued? (plainName property) (plainName value)).map fun s => (s, false)
  | none, none, none => (named? (plainName t)).map fun s => (s, false)

end StructuralEditing.CharProperty
