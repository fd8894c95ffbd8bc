import Lehen.Storage

/-!
`storage/bootstrap.py`: what the Hub and the CLI do to the database before they
serve. A request to the database is one operation; its effect on the schema is what
its SQL says.
-/

namespace Lehen.Bootstrap

open Storage (Time isoformat)

def docTypes : List String :=
  ["LLMConfig", "IntegrationInstance", "SIAMMapping", "IntegrationConnection", "ConsentEvent",
    "AdminAuditEvent", "LoginEvent", "LocalAdmin", "LocalAdminLoginEvent",
    "LocalAdminCredentialRotated"]

def defaultOllamaBaseUrl : String := "http://host.docker.internal:11434"
def defaultInferenceModel : String := "gemma4:e4b"
def defaultEmbeddingModel : String := "nomic-embed-text"

/-! The database. -/

/-- The types of a database and the documents of `LLMConfig`. A document needs its type. -/
@[ext] structure Database where
  types : List String
  llmConfig : List (Dict Json)
  typed : llmConfig ≠ [] → "LLMConfig" ∈ types

def Database.empty : Database := ⟨[], [], fun filled => absurd rfl filled⟩

/-- The same documents under more types. -/
def Database.withTypes (database : Database) (names : List String) : Database :=
  { types := database.types ++ names
    llmConfig := database.llmConfig
    typed := fun filled => List.mem_append_left names (database.typed filled) }

def Database.insert (database : Database) (doc : Dict Json) (typed : "LLMConfig" ∈ database.types) :
    Database :=
  { database with llmConfig := database.llmConfig ++ [doc], typed := fun _ => typed }

inductive SchemaStatement where
  | databaseExists
  | createDatabase
  | selectTypes
  | createDocumentType (name : String)
  | countLlmConfig
  | insertLlmConfig (doc : Dict Json)

@[reducible] def SchemaStatement.Res : SchemaStatement → Type
  | .databaseExists => Bool
  | .selectTypes | .countLlmConfig => List (Dict Json)
  | _ => Unit

def SchemaStatement.isWrite : SchemaStatement → Bool
  | .createDatabase | .createDocumentType _ | .insertLlmConfig _ => true
  | _ => false

/-- The answer and the database after it. A statement on what does not exist, or a
second creation of the database, has neither. -/
def SchemaStatement.apply :
    (statement : SchemaStatement) → Option Database → Option (statement.Res × Option Database)
  | .databaseExists, database => some (database.isSome, database)
  | .createDatabase, none => some ((), some Database.empty)
  | .createDatabase, some _ => none
  | .selectTypes, some database =>
      some (database.types.map fun name => Dict.ofList [("name", .str name)], some database)
  | .createDocumentType name, some database =>
      -- `IF NOT EXISTS`.
      if name ∈ database.types then some ((), some database)
      else some ((), some (database.withTypes [name]))
  | .countLlmConfig, some database =>
      if "LLMConfig" ∈ database.types then
        some ([Dict.ofList [("c", .int database.llmConfig.length)]], some database)
      else none
  | .insertLlmConfig doc, some database =>
      if typed : "LLMConfig" ∈ database.types then some ((), some (database.insert doc typed))
      else none
  | _, none => none

/-! The operations and the world that answers them. -/

inductive BootstrapOp where
  | send (statement : SchemaStatement)
  | clock

@[reducible] def BootstrapOp.Res : BootstrapOp → Type
  | .send statement => statement.Res
  | .clock => Time

abbrev Boot (α : Type) := Prog BootstrapOp BootstrapOp.Res PyError α

/-- `fails` interrupts a request, which then has no effect. `refusal` is the error of
a statement that the database cannot execute. -/
structure Outside (N : Type) where
  fails : SchemaStatement → N → Option PyError × N
  refusal : SchemaStatement → PyError
  clock : N → Time × N

structure World (N : Type) where
  database : Option Database
  outside : N

variable {N : Type}

def exec (outside : Outside N) : (op : BootstrapOp) → World N → Except PyError op.Res × World N
  | .send statement, world =>
      match outside.fails statement world.outside with
      | (some error, next) => (.error error, ⟨world.database, next⟩)
      | (none, next) =>
          match statement.apply world.database with
          | some (answer, database) => (.ok answer, ⟨database, next⟩)
          | none => (.error (outside.refusal statement), ⟨world.database, next⟩)
  | .clock, world =>
      (.ok (outside.clock world.outside).1, { world with outside := (outside.clock world.outside).2 })

/-- A database that executes every statement it can. -/
def Outside.Reliable (outside : Outside N) : Prop :=
  ∀ statement state, (outside.fails statement state).1 = none

/-! The code. -/

def send (statement : SchemaStatement) : Boot statement.Res :=
  Prog.perform (BootstrapOp.send statement)

/-- `type_name in existing`, of a set of `row.get("name")`. -/
def named (existing : List Json) (typeName : String) : Bool :=
  existing.any fun value => match value with
    | .str text => text = typeName
    | _ => false

/-- The loop over the types, with the names created so far. -/
def createMissing (existing : List Json) : List String → List String → Boot (List String)
  | created, [] => return created
  | created, typeName :: rest =>
      if named existing typeName then createMissing existing created rest
      else do
        send (.createDocumentType typeName)
        createMissing existing (created ++ [typeName]) rest

def isLlmConfigEmpty : Boot Bool := do
  let rows ← send .countLlmConfig
  match rows with
  | [] => return true
  | row :: _ =>
      let count ← Prog.lift (((row.lookup "c").getD (.int 0)).toInt)
      return count = 0

def seedDoc (now : Time) : Dict Json :=
  Dict.ofList
    [("id", .str "default"),
      ("inference_provider", .str "ollama"),
      ("inference_model", .str defaultInferenceModel),
      ("inference_base_url", .str defaultOllamaBaseUrl),
      ("embedding_provider", .str "ollama"),
      ("embedding_model", .str defaultEmbeddingModel),
      ("embedding_base_url", .str defaultOllamaBaseUrl),
      ("updated_by", .str "system-bootstrap"),
      ("updated_at", .str (isoformat now))]

def seedLlmConfig (now : Time) : Boot Unit := send (.insertLlmConfig (seedDoc now))

/-- `now or datetime.now(UTC)`. -/
def nowOr (now : Option Time) : Boot Time :=
  match now with
  | some instant => return instant
  | none => Prog.perform BootstrapOp.clock

/-- The names of the types it created. -/
def ensureAdminSchema (now : Option Time) : Boot (List String) := do
  let instant ← nowOr now
  let present ← send .databaseExists
  Prog.when (present = false) (send .createDatabase)
  let rows ← send .selectTypes
  let existing := rows.map fun row => (row.lookup "name").getD .null
  let created ← createMissing existing [] docTypes
  let empty ← isLlmConfigEmpty
  Prog.when (empty = true) (seedLlmConfig instant)
  return created

end Lehen.Bootstrap
