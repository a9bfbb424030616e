import UiReplay.Workflow.Validity
import UiReplay.Json.Reader
import UiReplay.Json.Writer
import UiReplay.Yaml.Writer
import UiReplay.Files.Path

/-!
# Workflow files

A workflow is kept as JSON or as YAML.  The extension of the file decides: `.json`, or
`.yaml` and `.yml`, in any case.  What is read is checked before it is given out.

In YAML a text may be any scalar, and a list or map that is left out is an empty one.
The steps are read as values, like those of JSON, so that a step that is none is kept in
either format.
-/

namespace UiReplay

/-! ## Formats -/

/-- A file format. -/
inductive Format where
  /-- JSON with one part a line. -/
  | json
  /-- YAML in block style. -/
  | yaml
deriving DecidableEq, Repr

/-- The format of a path. -/
def Format.ofPath? (path : String) : Option Format :=
  match (FilePath.extension? path).map Text.asciiLower with
  | some "json" => some .json
  | some "yaml" => some .yaml
  | some "yml" => some .yaml
  | _ => none

/-! ## YAML -/

namespace Workflow

/-- Puts the values of a map one by one into a record, ignoring unknown keys and
refusing a key that comes twice. -/
def putEntries {σ : Type} (put : String → Option (Yaml.Node → σ → Option σ)) :
    List (Yaml.Node × Yaml.Node) → List String → σ → Option σ
  | [], _, r => some r
  | (k, n) :: rest, seen, r =>
      match k.text? with
      | none => none
      | some name =>
          match put name with
          | none => putEntries put rest seen r
          | some store =>
              if seen.contains name then none
              else (store n r).bind fun r => putEntries put rest (name :: seen) r

/-- A text that may be nothing. -/
def optionalTextOf? (n : Yaml.Node) : Option (Option String) :=
  match n.optional? with
  | none => none
  | some none => some none
  | some (some n) => n.text?.map some

/-- A number of 32 bits that may be nothing. -/
def optionalNatOf? (n : Yaml.Node) : Option (Option Nat) :=
  match n.optional? with
  | none => none
  | some none => some none
  | some (some n) => (n.nat? Number.wordLimit32).map some

/-- The fields of the facts about a device. -/
def deviceEntry : String → Option (Yaml.Node → DeviceInfo → Option DeviceInfo)
  | "model" => some fun n r => (optionalTextOf? n).map fun v => { r with model := v }
  | "manufacturer" => some fun n r => (optionalTextOf? n).map fun v => { r with manufacturer := v }
  | "os_version" => some fun n r => (optionalTextOf? n).map fun v => { r with osVersion := v }
  | "screen_width" => some fun n r => (optionalNatOf? n).map fun v => { r with screenWidth := v }
  | "screen_height" => some fun n r => (optionalNatOf? n).map fun v => { r with screenHeight := v }
  | _ => none

/-- The facts about a device in a node. -/
def deviceOf? (n : Yaml.Node) : Option (Option DeviceInfo) :=
  match n.optional? with
  | none => none
  | some none => some none
  | some (some n) => n.entries?.bind fun es => (putEntries deviceEntry es [] {}).map some

/-- The fields of a workflow. -/
def workflowEntry : String → Option (Yaml.Node → Draft → Option Draft)
  | "id" => some fun n r =>
      (n.text?.bind Uuid.read?).map fun v => { r with id := some v }
  | "name" => some fun n r => n.text?.map fun v => { r with name := v }
  | "device_info" => some fun n r => (deviceOf? n).map fun v => { r with deviceInfo := v }
  | "tags" => some fun n r =>
      (n.items?.bind fun ns => ns.mapM Yaml.Node.text?).map fun v => { r with tags := v }
  | "version" => some fun n r =>
      (n.nat? Number.wordLimit32).map fun v => { r with version := v }
  | "steps" => some fun n r =>
      (n.items?.bind (Yaml.Node.valuesWithin? (Yaml.depthLimit - 2))).map fun v =>
        { r with steps := v }
  | _ => none

/-- The flat form of a workflow in a YAML text.  An empty text is an empty map. -/
def draftOfYaml? (text : String) : Option Draft :=
  match Yaml.read? text with
  | none => none
  | some none => some {}
  | some (some n) => n.entries?.bind fun es => putEntries workflowEntry es [] {}

end Workflow

/-! ## Reading and writing -/

/-- Why there is no workflow in a text. -/
inductive ContentError where
  /-- It is no JSON text of a workflow. -/
  | json
  /-- It is no YAML text of a workflow. -/
  | yaml
  /-- The workflow is not valid. -/
  | invalid (problem : Problem)
deriving DecidableEq

namespace Workflow

/-- The flat form of a workflow in a text. -/
def readDraft (text : String) : Format → Except ContentError Draft
  | .json =>
      match (Json.read? text).map decodeDraft with
      | some (.ok r) => .ok r
      | _ => .error .json
  | .yaml =>
      match draftOfYaml? text with
      | some r => .ok r
      | none => .error .yaml

/-- The valid workflow in a text. -/
def parse (text : String) (format : Format) : IdSupply.With (Except ContentError Workflow) :=
  match readDraft text format with
  | .error e => pure (.error e)
  | .ok r => do
      let w ← ofDraft r
      match w.validate with
      | .ok _ => return .ok w
      | .error p => return .error (.invalid p)

/-- The text of a workflow. -/
def render (w : Workflow) : Format → String
  | .json => Json.pretty w.document
  | .yaml => Yaml.write w.document

end Workflow

/-! ## Tests -/

example : ["a.json", "b.YML", "d/.json", "c.yaml/", "x.txt", ".."].map Format.ofPath?
    = [some .json, some .yaml, none, some .yaml, none, none] := by decide +kernel

end UiReplay
