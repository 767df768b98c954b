import PostQuery.Document
import PostQuery.Settings

/-!
# Settings from a file

A settings file holds a document with a mapping, whose entry `builder` names settings. A document or
an entry that counts as false names none. The settings it does not name keep their defaults. Files
are loaded by whatever loader there is, and what that reports is passed on.
-/

namespace PostQuery.Settings

/-- What is found under the name of a file: nothing that could be opened, for a reason, or octets. -/
inductive FileContent where
  | unreadable (reason : String)
  | octets (octets : List UInt8)

/-- Why a file gives no settings. -/
inductive FileFault where
  | load (f : LoadFault)
  | notDict
  | sectionNotDict
  | settings (f : Fault)

namespace FileFault

/-- What is reported of a file with the given name. -/
def message (path : String) : FileFault → String
  | .load (.unreadable reason) => "Cannot read config file " ++ path ++ ": " ++ reason
  | .load (.malformed reason) => "Invalid YAML in " ++ path ++ ": " ++ reason
  | .load (.other _ reason) => reason
  | .notDict => "Config file " ++ path ++ " must contain a mapping"
  | .sectionNotDict => "'builder' section in " ++ path ++ " must be a mapping"
  | .settings f => f.message

/-- The kind of misuse behind a fault, if it is one and not a refusal of the file. -/
def kind? : FileFault → Option MisuseKind
  | .load (.other kind _) => some kind
  | .settings (.misuse m) => some m.kind
  | _ => none

end FileFault

/-- The settings that a document names. -/
def ofDocument (d : Document) : Except FileFault Settings :=
  match d.entries? d.root with
  | none => .error .notDict
  | some entries =>
    let section? := (entries.find? fun e => e.1.eqv (.text "builder")).map Prod.snd
    match (section?.map d.entries?).getD (some []) with
    | none => .error .sectionNotDict
    | some named =>
      let named : Dict := named.map fun e => (e.1, d.value e.2)
      (ofDict (({} : Settings).toDict.update named)).mapError .settings

/-- The settings of a file. -/
def ofFile (load : Loader) (content : FileContent) : Except FileFault Settings :=
  match content with
  | .unreadable reason => .error (.load (.unreadable reason))
  | .octets octets => do
    let document ← (load octets).mapError .load
    ofDocument document

end PostQuery.Settings
