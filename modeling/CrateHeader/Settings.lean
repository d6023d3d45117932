import CrateHeader.Cfg.Environment
import CrateHeader.Document
import CrateHeader.Identifier.RenameRule

/-!
# Settings

What a run can be told: the environment of predicates, the exported surface, names, the ceiling on
specialization and the look of the header. Some settings are put into the header as they are given and stay
documents until then.
-/

namespace CrateHeader

inductive CommentStyle where
  | c99
  | doxy
  deriving DecidableEq, Repr

def CommentStyle.name : CommentStyle → String
  | c99 => "c99"
  | doxy => "doxy"

structure CfgSettings where
  flags : List (String × Bool)
  features : Option (List String)
  values : List (String × List String)

def CfgSettings.environment (s : CfgSettings) : Environment :=
  .ofSettings s.flags s.features s.values

structure ExportSettings where
  /-- What stands in front of every type name. -/
  typePrefix : String
  /-- Roots beside the exported entities. -/
  included : List String
  /-- Neither roots nor part of the header. -/
  excluded : List String
  /-- Export names that win over all others. -/
  renamed : List (String × String)
  /-- Types to be declared only. -/
  opaqueMarks : List String
  /-- Types that an included header provides. -/
  external : List String

structure FunctionSettings where
  renameArgs : RenameRule
  noReturn : Document
  deprecated : Document
  /-- The mark of a deprecated function with a note, which goes where the braces are. -/
  deprecatedWithNote : Document

structure EnumSettings where
  renameVariants : RenameRule
  prefixWithName : Bool

structure SpecializationSettings where
  maxDepth : Nat
  dropUnderscores : Bool

structure Settings where
  language : String
  header : Document
  trailer : Document
  autogenWarning : Document
  includeGuard : Document
  pragmaOnce : Bool
  sysIncludes : List String
  includes : List String
  noIncludes : Bool
  cppCompat : Bool
  documentation : Bool
  commentStyle : CommentStyle
  workers : Nat
  cfg : CfgSettings
  surface : ExportSettings
  function : FunctionSettings
  renameFields : RenameRule
  enumeration : EnumSettings
  specialization : SpecializationSettings

namespace Settings

def defaultSysIncludes : List String :=
  ["stdarg.h", "stdbool.h", "stddef.h", "stdint.h", "stdlib.h"]

def default : Settings where
  language := "c"
  header := .null
  trailer := .null
  autogenWarning := .null
  includeGuard := .null
  pragmaOnce := false
  sysIncludes := defaultSysIncludes
  includes := []
  noIncludes := false
  cppCompat := true
  documentation := true
  commentStyle := .c99
  workers := 4
  cfg := ⟨[], none, []⟩
  surface := ⟨"", [], [], [], [], []⟩
  function := ⟨.none, .null, .null, .null⟩
  renameFields := .none
  enumeration := ⟨.none, false⟩
  specialization := ⟨64, false⟩

end Settings

end CrateHeader
