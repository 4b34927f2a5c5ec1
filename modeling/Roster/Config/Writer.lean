import Roster.Config.Field
import Roster.Yaml.Writer

/-!
# Writing the configuration

A configuration file that gives every field, a line or more for each.
-/

namespace Roster.Config

/-- The texts in a field. -/
def textsOf (c : Config) : Field → List String
  | .busNameStart => [c.busNameStart]
  | .objectPathBase => [c.objectPathBase]
  | .managerInterface => [c.managerInterface]
  | .managersSubdir => [c.managersSubdir]
  | .managerFileExtension => [c.managerFileExtension]
  | .listTimeout | .callTimeout | .alwaysIntrospect => []
  | .extraDataDirs => c.extraDataDirs

/-- The value of a field, from behind its colon to the end of its last line. -/
def fieldText (c : Config) : Field → String
  | .listTimeout => " " ++ toString c.listTimeout ++ "\n"
  | .callTimeout => " " ++ toString c.callTimeout ++ "\n"
  | .alwaysIntrospect => if c.alwaysIntrospect then " true\n" else " false\n"
  | .extraDataDirs =>
    if c.extraDataDirs = [] then " []\n"
    else "\n" ++ String.join (c.extraDataDirs.map fun path => "-" ++ Yaml.Writer.textLine path)
  | .busNameStart => Yaml.Writer.textLine c.busNameStart
  | .objectPathBase => Yaml.Writer.textLine c.objectPathBase
  | .managerInterface => Yaml.Writer.textLine c.managerInterface
  | .managersSubdir => Yaml.Writer.textLine c.managersSubdir
  | .managerFileExtension => Yaml.Writer.textLine c.managerFileExtension

/-- The text of a configuration file. Behind a text whose last lines are empty, unless another text in
lines follows, a line ends the document. -/
def fileText (c : Config) : String :=
  let texts := Field.all.flatMap c.textsOf
  let lastLines := (texts.filter fun t => Yaml.Writer.styleOf t = .literal).getLast?
  String.join (Field.all.map fun f => f.key ++ ":" ++ c.fieldText f) ++
    (if lastLines.any Yaml.Writer.isOpenEnded then "...\n" else "")

end Roster.Config
