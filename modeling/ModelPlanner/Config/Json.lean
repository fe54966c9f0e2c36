/-
**Configurations in JSON.**

A configuration is a record whose missing fields keep their defaults. The two suffixes must not be
empty.
-/

import ModelPlanner.Config
import ModelPlanner.Json.Reader
import ModelPlanner.Json.Record

namespace ModelPlanner

/-- Why a text is no configuration. -/
inductive ConfigError where
  | malformed
  | emptySuffix (field : String)
deriving Repr, DecidableEq

/-- The wording of a refused configuration. -/
def ConfigError.message : ConfigError → String
  | .malformed => "JSON error"
  | .emptySuffix field => "Invalid configuration: " ++ field ++ " cannot be empty"

namespace Config

/-- The fields of a configuration in JSON, in their order. -/
def fieldNames : List String :=
  ["generatedSuffix", "builderSuffix", "resetMethod", "capability", "attributeAnnotation",
   "modelAnnotation", "nullableAnnotation", "hashMultiplier", "presenceOnlyTypes",
   "boundTypeMarkers", "defaultBoundType", "requireHashCode", "groupOverloads"]

/-- The integer of 32 bits that a JSON value holds. -/
def int32? (json : Json) : Option Int32 :=
  (json.intBetween? Int32.minValue.toInt Int32.maxValue.toInt).map Int32.ofInt

/-- The configuration that a JSON value holds. -/
def ofJson? (json : Json) : Option Config := do
  let fields ← json.record? fieldNames
  let new : Config := {}
  match fields with
  | [generatedSuffix, builderSuffix, resetMethod, capability, attributeName, modelName,
      nullableName, hashMultiplier, presenceOnlyTypes, boundTypeMarkers, defaultBoundType,
      requireHashCode, groupOverloads] =>
    return {
      generatedSuffix := ← Json.defaulted? new.generatedSuffix Json.text? generatedSuffix
      builderSuffix := ← Json.defaulted? new.builderSuffix Json.text? builderSuffix
      resetMethod := ← Json.defaulted? new.resetMethod Json.text? resetMethod
      capability := ← Json.defaulted? new.capability Json.text? capability
      attributeAnnotationName :=
        ← Json.defaulted? new.attributeAnnotationName Json.text? attributeName
      modelAnnotationName := ← Json.defaulted? new.modelAnnotationName Json.text? modelName
      nullableAnnotationName :=
        ← Json.defaulted? new.nullableAnnotationName Json.text? nullableName
      hashMultiplier := ← Json.defaulted? new.hashMultiplier int32? hashMultiplier
      presenceOnlyTypes :=
        ← Json.defaulted? new.presenceOnlyTypes (Json.list? Json.text?) presenceOnlyTypes
      boundTypeMarkers :=
        ← Json.defaulted? new.boundTypeMarkers (Json.list? Json.text?) boundTypeMarkers
      defaultBoundType := ← Json.defaulted? new.defaultBoundType Json.text? defaultBoundType
      requireHashCode := ← Json.defaulted? new.requireHashCode Json.bool? requireHashCode
      groupOverloads := ← Json.defaulted? new.groupOverloads Json.bool? groupOverloads }
  | _ => none

/-- The configuration that a text holds. -/
def read (text : String) : Except ConfigError Config :=
  match (Json.read? text).bind ofJson? with
  | none => .error .malformed
  | some config =>
    if config.generatedSuffix.isEmpty then .error (.emptySuffix "generatedSuffix")
    else if config.builderSuffix.isEmpty then .error (.emptySuffix "builderSuffix")
    else .ok config

end Config

end ModelPlanner
