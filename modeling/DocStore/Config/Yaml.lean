import DocStore.Config
import DocStore.Yaml.Load
/-!
# Configuration files

A configuration file is a YAML mapping of the settings it changes. A blank text is the default
configuration. Unknown keys are ignored; a key given twice is an error. Text settings take the
text of any scalar (`name: 5` names the file `5`), counts must be unsigned integers that fit
their field, and the engine settings must be one of their snake-case names.
-/

namespace DocStore

open Yaml

/-- Read one member of a configuration mapping: `none` for an unknown key. -/
def Config.readMember (key : String) (c : Config × List String) :
    ValueReader (Option (Config × List String)) := fun d pos path => do
  let (cfg, seen) := c
  let known := ConfigJson.fieldNames.contains key
  if known ∧ seen.contains key then throw (.message ("duplicate field `" ++ key ++ "`") none)
  let seen := if known then key :: seen else seen
  match key with
  | "data_dir" =>
    let (v, next) ← readText "path string" d pos path
    return (some ({ cfg with dataDir := v }, seen), next)
  | "name" =>
    let (v, next) ← readText "a string" d pos path
    return (some ({ cfg with name := v }, seen), next)
  | "open_attempts" =>
    let (v, next) ← readUnsigned "u32" 32 d pos path
    return (some ({ cfg with openAttempts := v }, seen), next)
  | "open_backoff_ms" =>
    let (v, next) ← readUnsigned "u64" 64 d pos path
    return (some ({ cfg with openBackoffMs := v }, seen), next)
  | "crash_retries" =>
    let (v, next) ← readUnsigned "u32" 32 d pos path
    return (some ({ cfg with crashRetries := v }, seen), next)
  | "journal_mode" =>
    let (v, next) ← readVariant JournalMode.all d pos path
    return (some ({ cfg with journalMode := v }, seen), next)
  | "synchronous" =>
    let (v, next) ← readVariant Synchronous.all d pos path
    return (some ({ cfg with synchronous := v }, seen), next)
  | "listener_buffer" =>
    let (v, next) ← readUnsigned "usize" 64 d pos path
    return (some ({ cfg with listenerBuffer := v }, seen), next)
  | _ => return (none, pos)

/-- A configuration from the text of a configuration file. -/
def Config.ofYaml (text : String) : Except String Config :=
  if text.toList.all Text.isWhiteSpace then .ok {}
  else
    let (doc, more) := loadDocument text
    let result : Except LoadError Config := do
      let (c, _) ← readRecord "struct Config" (({} : Config), ([] : List String)) Config.readMember doc
      match doc.error with
      | some e => throw e
      | none => pure ()
      if more then throw .moreThanOneDocument
      return c
    result.mapError LoadError.text

end DocStore
