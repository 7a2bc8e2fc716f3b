/-
Software: what an update asks for and what is installed on the device.

* `SoftwareEntry.ofJson_toJson`, `InstalledSoftware.ofJson_toJson`: what
  is written is read back.
-/
import RemoteOps.Json.Decode

namespace RemoteOps

/-- A piece of software that an update asks for. -/
structure SoftwareEntry where
  name : String
  version : String
  url : Option String
deriving DecidableEq, Repr

/-- A piece of software that is installed. -/
structure InstalledSoftware where
  name : String
  version : String
deriving DecidableEq, Repr

namespace SoftwareEntry

/-- The fields that are read so far. -/
structure Fields where
  name : Option String := none
  version : Option String := none
  url : Option (Option String) := none

/-- Reads one member of an object. -/
def Fields.read (f : Fields) (m : String × Json) :
    Except DecodeError Fields :=
  match m.1 with
  | "name" => do return { f with name := some (← m.2.decodeString) }
  | "version" => do return { f with version := some (← m.2.decodeString) }
  | "url" => do return { f with url := some (← m.2.decodeOption) }
  | _ => .ok f

/-- Decodes an entry. -/
def ofJson : Json → Except DecodeError SoftwareEntry
  | .object members => do
    let f ← members.foldlM Fields.read {}
    let name ← Json.require "name" f.name
    let version ← Json.require "version" f.version
    return ⟨name, version, f.url.getD none⟩
  | .array l => do
    let expected := "struct SoftwareEntry with 3 elements"
    let (name, rest) ← Json.decodeNext Json.decodeString 0 expected l
    let (version, rest) ← Json.decodeNext Json.decodeString 1 expected rest
    let (url, rest) ← Json.decodeNextOr Json.decodeOption none rest
    Json.decodeDone l.length rest
    return ⟨name, version, url⟩
  | a => .error (a.mismatch "struct SoftwareEntry")

/-- The JSON value of an entry, without `url` when there is none. -/
def toJson (e : SoftwareEntry) : Json :=
  .object <|
    ("name", .string e.name) ::
    (match e.url with
      | some url => [("url", .string url)]
      | none => []) ++
    [("version", .string e.version)]

theorem ofJson_toJson (e : SoftwareEntry) : ofJson e.toJson = .ok e := by
  obtain ⟨name, version, url⟩ := e
  cases url <;> rfl

end SoftwareEntry

namespace InstalledSoftware

/-- Whether this is exactly the requested name and version. -/
def isWanted (installed : InstalledSoftware) (e : SoftwareEntry) : Bool :=
  installed.name = e.name && installed.version = e.version

/-- The fields that are read so far. -/
structure Fields where
  name : Option String := none
  version : Option String := none

/-- Reads one member of an object. -/
def Fields.read (f : Fields) (m : String × Json) :
    Except DecodeError Fields :=
  match m.1 with
  | "name" => do return { f with name := some (← m.2.decodeString) }
  | "version" => do return { f with version := some (← m.2.decodeString) }
  | _ => .ok f

/-- Decodes installed software. -/
def ofJson : Json → Except DecodeError InstalledSoftware
  | .object members => do
    let f ← members.foldlM Fields.read {}
    let name ← Json.require "name" f.name
    let version ← Json.require "version" f.version
    return ⟨name, version⟩
  | .array l => do
    let expected := "struct InstalledSoftware with 2 elements"
    let (name, rest) ← Json.decodeNext Json.decodeString 0 expected l
    let (version, rest) ← Json.decodeNext Json.decodeString 1 expected rest
    Json.decodeDone l.length rest
    return ⟨name, version⟩
  | a => .error (a.mismatch "struct InstalledSoftware")

/-- The JSON value of installed software. -/
def toJson (s : InstalledSoftware) : Json :=
  .object [("name", .string s.name), ("version", .string s.version)]

theorem ofJson_toJson (s : InstalledSoftware) :
    ofJson s.toJson = .ok s := rfl

end InstalledSoftware

end RemoteOps
