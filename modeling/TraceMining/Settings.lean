import TraceMining.Text.Blank
import TraceMining.Text.Case
import TraceMining.Text.Search
import TraceMining.Value.Basic

/-
  This file defines the settings, which are read once from
  the variables of the environment.

  Key definitions include:
    * `Settings`
    * `Settings.flag`
    * `Settings.origins`
    * `Settings.ofEnvironment`
-/

------------------------------------------------------------
-- Settings
------------------------------------------------------------

namespace TraceMining

/- What can be set from outside. -/
structure Settings where
  logLevel : String
  schemaVersion : String
  seedDefinitions : Bool
  corsOrigins : List String
  deriving DecidableEq, Repr

namespace Settings

/- Variables and their texts. -/
abbrev Environment :=
  List (String × String)

/- The text of a variable, if it is set. -/
def text?
    (env : Environment)
    (name : String) : Option String :=
  env.lookup name

/- Text without the blanks around it. -/
def stripped
    (cs : List Char) : List Char :=
  Text.trim Text.isBlank cs

/- The texts that switch a flag on. -/
def switchedOn : List String :=
  ["1", "true", "yes", "on"]

/- A flag; every other text switches it off. -/
def flag
    (env : Environment)
    (name : String)
    (otherwise : Bool) : Bool :=
  match text? env name with
  | some s =>
      switchedOn.contains
        (String.ofList (Text.lowerChars (stripped s.toList)))
  | none => otherwise

/- The origins that commas separate; empty ones are left out. -/
def origins
    (s : String) : List String :=
  (((Text.pieces ',' s.toList).map stripped).filter
    fun cs => !cs.isEmpty).map String.ofList

/- The version of models where none is set. -/
def defaultVersion : String := "1.0.0"

/- The settings of an environment. -/
def ofEnvironment
    (env : Environment) : Settings :=
  { logLevel :=
      Text.upper ((text? env "LOG_LEVEL").getD "INFO")
    schemaVersion :=
      (text? env "MODEL_SCHEMA_VERSION").getD
        defaultVersion
    seedDefinitions := flag env "SEED_DEFAULT_DEFINITIONS" true
    corsOrigins :=
      origins
        ((text? env "CORS_ORIGINS").getD
          "http://localhost:3000,http://localhost:3001") }

/- Settings as a document. -/
def toValue
    (s : Settings) : Value :=
  .object
    [ ("LOG_LEVEL", .text s.logLevel)
    , ("MODEL_SCHEMA_VERSION", .text s.schemaVersion)
    , ("SEED_DEFAULT_DEFINITIONS", .bool s.seedDefinitions)
    , ("CORS_ORIGINS", .ofTexts s.corsOrigins) ]

end Settings

end TraceMining
