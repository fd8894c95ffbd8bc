import Lehen.Conforming
import Lehen.Masking
import Mathlib.Data.List.Chain

/-!
The audit events about one target, as a history of what is stored of it. An event
is compared with its neighbours on the keys that are not secret.
-/

namespace Lehen.Trail

open Storage OAuth AuditService Masking Entries
open SiamService (siamId)
open LlmService (llmConfigId)

variable {N : Type} (settings : Settings)

/-- What an admin operation is about. -/
inductive Target where
  | place (id : String)
  | llm
  | siam
  deriving DecidableEq

def targetOf (event : AdminAuditEvent) : Option Target :=
  if event.action ∈ ["integration.create", "integration.update", "integration.delete"] then
    event.targetId.map .place
  else if event.action = "llm.update" then some .llm
  else if event.action = "siam.update" then some .siam
  else none

def trail (target : Target) (audits : List AdminAuditEvent) : List AdminAuditEvent :=
  audits.filter fun event => targetOf event = some target

/-- What the second document says outside of secrets, the first says too. -/
def Covers : Option (Dict Json) → Option (Dict Json) → Prop
  | none, none => True
  | some whole, some part =>
      ∀ key ∉ secretKeys, ∀ value, part.lookup key = some value → whole.lookup key = some value
  | _, _ => False

/-- The stored row as a document. -/
def placeDocument (row : InstanceRow) : Dict Json :=
  Dict.merge
    (Dict.ofList
      [("id", .str row.id), ("type", .str row.type), ("display_name", .str row.displayName),
        ("enabled", .bool row.enabled), ("multi_connection_allowed", .bool row.multiConnectionAllowed)])
    row.configPublic

def mappingDocument (mapping : Json) : Dict Json := Dict.ofList [("mapping", mapping)]

/-- What the store holds of a target. -/
def stored (store : Store) : Target → Option (Dict Json)
  | .place id => (store.instances.find? fun row => row.id = id).map placeDocument
  | .llm => store.llm.find? (hasId llmConfigId)
  | .siam => (store.siam.find? fun row => row.id = siamId).map fun row => mappingDocument row.mapping

/-- Each event about a target begins where the one before it ended, and the last
one tells what is stored. -/
structure Faithful (store : Store) (target : Target) : Prop where
  chained : (trail target store.audits).IsChain fun previous next => Covers previous.after next.before
  current : ∀ event ∈ (trail target store.audits).getLast?, Covers (stored store target) event.after

/-! Coverage. -/

theorem covers_trans {first second third : Option (Dict Json)} (left : Covers first second)
    (right : Covers second third) : Covers first third := by
  cases first with
  | none =>
      cases second with
      | none => exact right
      | some doc => exact left.elim
  | some whole =>
      cases second with
      | none => exact left.elim
      | some middle =>
          cases third with
          | none => exact right.elim
          | some part => exact fun key open_ value found => left key open_ value (right key open_ value found)

/-- Two documents that say the same outside of secrets. -/
def Agree (first second : Option (Dict Json)) : Prop := Covers first second ∧ Covers second first

theorem agree_of_lookup {first second : Dict Json}
    (same : ∀ key ∉ secretKeys, first.lookup key = second.lookup key) :
    Agree (some first) (some second) :=
  ⟨fun key open_ _ found => (same key open_).trans found,
    fun key open_ _ found => (same key open_).symm.trans found⟩

/-! Lookups in a dictionary built from a list. -/

theorem mem_of_list (entries : List (String × Json)) (key : String) :
    key ∈ Dict.ofList entries ↔ key ∈ entries.map Prod.fst := by
  have onto (dict : Dict Json) :
      key ∈ entries.foldl (fun dict entry => AList.insert entry.1 entry.2 dict) dict ↔
        key ∈ dict ∨ key ∈ entries.map Prod.fst := by
    induction entries generalizing dict with
    | nil => simp
    | cons entry rest ih =>
        rw [List.foldl_cons, ih, AList.mem_insert, List.map_cons, List.mem_cons]
        tauto
  rw [Dict.ofList, onto]
  simp [AList.notMem_empty]

theorem lookup_of_list {entries : List (String × Json)} {key : String} {value : Json}
    (found : (Dict.ofList entries).lookup key = some value) : (key, value) ∈ entries := by
  have onto (entries : List (String × Json)) (dict : Dict Json)
      (found : (entries.foldl (fun dict entry => AList.insert entry.1 entry.2 dict) dict).lookup key =
        some value) : (key, value) ∈ entries ∨ dict.lookup key = some value := by
    induction entries generalizing dict with
    | nil => exact .inr found
    | cons entry rest ih =>
        rcases ih _ found with later | earlier
        · exact .inl (List.mem_cons_of_mem _ later)
        · by_cases hit : key = entry.1
          · subst hit
            rw [AList.lookup_insert] at earlier
            obtain rfl := Option.some.inj earlier
            exact .inl List.mem_cons_self
          · rw [AList.lookup_insert_ne hit] at earlier
            exact .inr earlier
  rcases onto entries ∅ found with member | absent
  · exact member
  · rw [AList.lookup_empty] at absent
    cases absent

/-- Where a key has one value, that is what is looked up. -/
theorem lookup_of_member {entries : List (String × Json)} {key : String} {value : Json}
    (member : (key, value) ∈ entries) (only : ∀ other, (key, other) ∈ entries → other = value) :
    (Dict.ofList entries).lookup key = some value := by
  have known : key ∈ Dict.ofList entries := (mem_of_list entries key).mpr (List.mem_map_of_mem member)
  obtain ⟨found, looked⟩ := Option.isSome_iff_exists.mp (AList.lookup_isSome.mpr known)
  rw [looked, only found (lookup_of_list looked)]

theorem lookup_of_mapped {β : Type} (doc : Dict β) (content : β → Json) (key : String) :
    (Dict.ofList (doc.entries.map fun entry => (entry.1, content entry.2))).lookup key =
      (doc.lookup key).map content := by
  cases found : doc.lookup key with
  | none =>
      rw [Option.map_none, AList.lookup_eq_none, mem_of_list, List.map_map]
      exact AList.lookup_eq_none.mp found
  | some value =>
      apply lookup_of_member
      · exact List.mem_map.mpr ⟨⟨key, value⟩, AList.mem_lookup_iff.mp found, rfl⟩
      · intro other member
        obtain ⟨entry, present, same⟩ := List.mem_map.mp member
        obtain ⟨name, held⟩ := entry
        cases same
        have again := AList.mem_lookup_iff.mpr present
        rw [Option.mem_def, found] at again
        rw [Option.some.inj again]

/-! What the log writes of an event. -/

theorem mask_fields_each (masked : List String) (fields : List (String × Json)) :
    ∃ written, maskFields settings masked fields = .ok written ∧
      List.Forall₂ (fun entry entry' => entry.1 = entry'.1 ∧
        maskValue settings masked entry.1 entry.2 = .ok entry'.2) fields written := by
  induction fields with
  | nil => exact ⟨[], rfl, .nil⟩
  | cons entry rest ih =>
      obtain ⟨key, value⟩ := entry
      obtain ⟨tail, same, all⟩ := ih
      have total : ∃ shown, maskValue settings masked key value = .ok shown := by
        by_cases named : key ∈ masked
        · rw [maskValue, if_pos named]
          exact mark_secret_total settings value
        · exact ⟨value, if_neg named⟩
      obtain ⟨shown, found⟩ := total
      rw [mask_fields_cons, found, same]
      exact ⟨(key, shown) :: tail, rfl, .cons ⟨rfl, found⟩ all⟩

/-- A masked document, key by key. -/
theorem mask_lookup (masked : List String) (doc : Dict Json) :
    ∃ written, maskSecrets settings (some doc) masked = .ok (some written) ∧
      ∀ key, Option.Rel (fun value shown => maskValue settings masked key value = .ok shown)
        (doc.lookup key) (written.lookup key) := by
  obtain ⟨written, same, all⟩ := mask_fields_each settings masked
    (doc.entries.map fun entry => (entry.1, entry.2))
  have entrywise : Entrywise (fun key value shown => maskValue settings masked key value = .ok shown)
      (Dict.ofList (doc.entries.map fun entry => (entry.1, entry.2))) (Dict.ofList written) :=
    entrywise_of_list all
  refine ⟨Dict.ofList written, by simp only [maskSecrets, same]; rfl, fun key => ?_⟩
  have read := lookup_of_mapped doc id key
  simp only [id_eq, Option.map_id_fun] at read
  rw [← read]
  rcases lookup_cases entrywise key with ⟨absent, absent'⟩ | ⟨value, shown, found, found', masks⟩
  · rw [absent, absent']
    exact .none
  · rw [found, found']
    exact .some masks

/-- Masking keeps what is not secret. -/
theorem mask_agrees {masked : List String} (known : ∀ name ∈ masked, name ∈ secretKeys)
    (doc : Option (Dict Json)) :
    ∃ written, maskSecrets settings doc masked = .ok written ∧ Agree doc written := by
  cases doc with
  | none => exact ⟨none, rfl, trivial, trivial⟩
  | some doc =>
      obtain ⟨written, same, all⟩ := mask_lookup settings masked doc
      refine ⟨some written, same, agree_of_lookup ?_⟩
      intro key open_
      have unmasked : key ∉ masked := fun named => open_ (known key named)
      have entry := all key
      generalize doc.lookup key = value at entry ⊢
      generalize written.lookup key = shown at entry ⊢
      cases entry with
      | none => rfl
      | some masks =>
          rw [maskValue, if_neg unmasked] at masks
          rw [Except.ok.inj masks]

/-- The entry the log gets for an event. -/
structure Logged (event : AuditEvent) (entry : AdminAuditEvent) : Prop where
  action : entry.action = event.action
  targetId : entry.targetId = event.targetId
  before : Agree event.before entry.before
  after : Agree event.after entry.after

theorem leaves_record {outside : Outside N} (reliable : outside.Reliable) {event : AuditEvent}
    {world : World N} {post : Except PyError Unit → World N → Prop}
    (known : ∀ name ∈ event.secretFields, name ∈ secretKeys)
    (done : ∀ entry (after : World N), Logged event entry →
      after.store = { world.store with audits := world.store.audits ++ [entry] } →
        post (.ok ()) after) :
    Prog.Leaves (exec outside) (record settings event) world post := by
  obtain ⟨before, maskedBefore, agreeBefore⟩ := mask_agrees settings known event.before
  obtain ⟨after, maskedAfter, agreeAfter⟩ := mask_agrees settings known event.after
  -- However the id is drawn, the entry shows the two views the event was given.
  have written (id : String) (ts : Time) (requestId : String) (world' : World N)
      (same : world'.store = world.store) :
      Prog.Leaves (exec outside) (Prog.perform (Op.store (.insertAudit
        { id, ts, actorSub := event.actorSub, actorUsername := event.actorUsername
          action := event.action, targetId := event.targetId, before, after, requestId })) :
            Hub Unit) world' post := by
    have logged : Logged event
        { id, ts, actorSub := event.actorSub, actorUsername := event.actorUsername
          action := event.action, targetId := event.targetId, before, after, requestId } :=
      ⟨rfl, rfl, agreeBefore, agreeAfter⟩
    have carried := exec_reliable reliable (.insertAudit
      { id, ts, actorSub := event.actorSub, actorUsername := event.actorUsername
        action := event.action, targetId := event.targetId, before, after, requestId }) world'
    rw [Prog.leaves_perform, carried.1]
    apply done _ _ logged
    rw [carried.2, ← same]
    rfl
  unfold record
  simp only [Prog.bind_eq, maskedBefore, maskedAfter, Prog.lift, Prog.bind_ret, uuid4, now]
  rw [Prog.leaves_bind, Prog.leaves_perform]
  simp only [exec]
  rw [Prog.leaves_bind, Prog.leaves_perform]
  simp only [exec]
  unfold requestIdOr
  split
  · split
    · rw [uuid4, Prog.leaves_bind, Prog.leaves_perform]
      exact written _ _ _ _ rfl
    · exact written _ _ _ _ rfl
  · rw [uuid4, Prog.leaves_bind, Prog.leaves_perform]
    exact written _ _ _ _ rfl

theorem leaves_record_then {α : Type} {outside : Outside N} (reliable : outside.Reliable)
    {event : AuditEvent} {world : World N} {rest : Unit → Hub α}
    {post : Except PyError α → World N → Prop}
    (known : ∀ name ∈ event.secretFields, name ∈ secretKeys)
    (done : ∀ entry (after : World N), Logged event entry →
      after.store = { world.store with audits := world.store.audits ++ [entry] } →
        Prog.Leaves (exec outside) (rest ()) after post) :
    Prog.Leaves (exec outside) ((record settings event).bind rest) world post := by
  rw [Prog.leaves_bind]
  exact leaves_record settings reliable known done

end Lehen.Trail
