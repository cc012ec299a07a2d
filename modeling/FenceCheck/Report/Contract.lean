import FenceCheck.FileTree.Workspace
import FenceCheck.Report.Schema

/-!
Schemas by their names. The installed program keeps each schema in a file of its schema directory, and a
name stands for the file that it leads to from there.
-/
namespace FenceCheck.Report

/-- The file that holds the schema with a name. -/
def schemaFile (name : String) : Path :=
  .ofText (name ++ ".schema.json")

/-- The directory of the schemas. -/
def schemaDirectory : Location := ["snippetctl", "contracts", "schemas"]

/-- The directories of the installed program and its one schema. -/
def installation : Workspace where
  cwd := schemaDirectory
  tree := ⟨[["snippetctl"], ["snippetctl", "cli"], ["snippetctl", "contracts"], schemaDirectory,
      ["snippetctl", "core"]].map (fun l => (l, .directory 0o755))
    ++ [(schemaDirectory ++ (schemaFile schemaName).parts, .file 0o644 [])]⟩

/-- Checks a value against the schema with a name. -/
def checkNamed (name : String) (v : Json) (validator : Validator := installed) : Outcome Unit :=
  match installation.isFile (schemaFile name) with
  | .error f => .error (.fault f)
  | .ok false => .error (.run (.schemaName ("unknown schema `" ++ name ++ "`")))
  | .ok true => checkSchema name v validator

/-- Checks the value in a file against the schema with a name. -/
def checkFile (w : Workspace) (name : String) (p : Path) : Outcome Unit :=
  match w.readText p with
  | .error (.system e) => .error (.run (.read ("cannot read " ++ p.text ++ ": " ++ e.message)))
  | .error f => .error (.fault f)
  | .ok text =>
    match Json.read (String.ofList text) with
    | .ok v => checkNamed name v
    | .error (.fault cause place) =>
      .error (.run (.schema (p.text ++ " is not valid JSON: " ++ (Json.ReadError.fault cause place).message)))
    | .error e => .error (.fault (.notJson e))

end FenceCheck.Report
