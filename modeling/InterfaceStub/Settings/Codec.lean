import InterfaceStub.Json.Record
import InterfaceStub.Json.Reader
import InterfaceStub.Settings.Basic

/-!
# Settings in JSON

Settings as a JSON value, and the settings that a JSON value describes.  A setting that is left out
has its default value.  `Settings.ofText` reads the text of a settings file.
-/

namespace InterfaceStub

open Json (ofString ofStrings ofOption ofMembers settings? optional? withDefault? list? text? bool?)

def ExtractSettings.toJson (settings : ExtractSettings) : Json :=
  ofMembers [("type_checking_names", ofStrings settings.typeCheckingNames)]

def GenerateSettings.toJson (settings : GenerateSettings) : Json :=
  ofMembers [("emit_required_imports", .bool settings.emitRequiredImports)]

def ScanSettings.toJson (settings : ScanSettings) : Json :=
  ofMembers
    [("overwrite", .bool settings.overwrite), ("skip_dirs", ofStrings settings.skipDirs),
     ("follow_links", .bool settings.followLinks),
     ("max_parallel_jobs", ofOption (fun jobs => Json.ofNat jobs.toNat) settings.maxParallelJobs)]

def Settings.toJson (settings : Settings) : Json :=
  ofMembers
    [("extract", settings.extract.toJson), ("generate", settings.generate.toJson),
     ("scan", settings.scan.toJson)]

/-- A number below 2 ^ 64. -/
def uint64? (json : Json) : Option UInt64 :=
  json.nat?.bind fun n => if n < UInt64.size then some (UInt64.ofNat n) else none

def ExtractSettings.ofJson? (json : Json) : Option ExtractSettings := do
  let default : ExtractSettings := {}
  match ← json.settings? ["type_checking_names"] with
  | [names] => return ⟨← withDefault? (list? text?) default.typeCheckingNames names⟩
  | _ => none

def GenerateSettings.ofJson? (json : Json) : Option GenerateSettings := do
  let default : GenerateSettings := {}
  match ← json.settings? ["emit_required_imports"] with
  | [emit] => return ⟨← withDefault? bool? default.emitRequiredImports emit⟩
  | _ => none

def ScanSettings.ofJson? (json : Json) : Option ScanSettings := do
  let default : ScanSettings := {}
  match ← json.settings? ["overwrite", "skip_dirs", "follow_links", "max_parallel_jobs"] with
  | [overwrite, skipDirs, followLinks, maxParallelJobs] =>
    return {
      overwrite := ← withDefault? bool? default.overwrite overwrite
      skipDirs := ← withDefault? (list? text?) default.skipDirs skipDirs
      followLinks := ← withDefault? bool? default.followLinks followLinks
      maxParallelJobs := ← optional? uint64? maxParallelJobs }
  | _ => none

def Settings.ofJson? (json : Json) : Option Settings := do
  match ← json.settings? ["extract", "generate", "scan"] with
  | [extract, generate, scan] =>
    return ⟨← withDefault? ExtractSettings.ofJson? {} extract,
      ← withDefault? GenerateSettings.ofJson? {} generate,
      ← withDefault? ScanSettings.ofJson? {} scan⟩
  | _ => none

/-- The settings that the text of a settings file describes, if they can be used. -/
def Settings.ofText (text : String) : Except SettingsError Settings :=
  match Json.parse text >>= Settings.ofJson? with
  | some settings => settings.validate.map fun () => settings
  | none => .error .malformed

end InterfaceStub
