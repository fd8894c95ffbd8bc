import Lehen.Ascending
import Lehen.Chronicle

/-!
The normal form of the role mapping, and the replacement that leaves it as it is.
-/

namespace Lehen.Normalizing

open Storage OAuth AuditService SiamService Ascending
open Prog (Mirrors mirrors_then run_perform_ok run_bind_ok)

variable {N : Type} {settings : Settings} {outside : Outside N}

/-- A mapping of roles as a JSON document. -/
def ofRoles (mapping : Dict Json) : Json := .obj (mapping.entries.map fun entry => (entry.1, entry.2))

def HasList (mapping : Dict Json) (role : String) : Prop :=
  ∃ items, mapping.lookup role = some (.arr items)

/-- The list of the role has the instance. -/
def Grants (mapping : Dict Json) (role instanceId : String) : Prop :=
  ∃ items, mapping.lookup role = some (.arr items) ∧ .str instanceId ∈ items

/-- The same roles have lists, and the lists have the same strings. -/
def SameGrants (mapping other : Dict Json) : Prop :=
  (∀ role, HasList mapping role ↔ HasList other role) ∧
    ∀ role instanceId, Grants mapping role instanceId ↔ Grants other role instanceId

/-- One entry of the normal form. -/
def cleaned (field : String × Json) : Option (String × List String) :=
  match field.2 with
  | .arr items => some (field.1, ascend (stringsOf items))
  | _ => none

theorem normalize_of_roles (mapping : Dict Json) :
    SiamService.normalize (ofRoles mapping) =
      byKey ((mapping.entries.map fun entry => (entry.1, entry.2)).filterMap cleaned) := rfl

theorem cleaned_eq_some (role : String) (value : Json) (entry : String × List String) :
    cleaned (role, value) = some entry ↔
      ∃ items, value = .arr items ∧ entry = (role, ascend (stringsOf items)) := by
  cases value <;> simp [cleaned, eq_comm]

theorem mem_normalize (mapping : Dict Json) (role : String) (ids : List String) :
    (role, ids) ∈ SiamService.normalize (ofRoles mapping) ↔
      ∃ items, mapping.lookup role = some (.arr items) ∧ ids = ascend (stringsOf items) := by
  rw [normalize_of_roles, mem_by_key, List.filterMap_map, List.mem_filterMap]
  constructor
  · rintro ⟨⟨held, value⟩, member, same⟩
    obtain ⟨items, rfl, entry⟩ := (cleaned_eq_some held value _).mp same
    obtain ⟨rfl, rfl⟩ := Prod.mk.inj entry
    exact ⟨items, AList.mem_lookup_iff.mpr member, rfl⟩
  · rintro ⟨items, found, rfl⟩
    exact ⟨⟨role, .arr items⟩, AList.mem_lookup_iff.mp found, rfl⟩

theorem roles_ascend (mapping : Dict Json) :
    ((SiamService.normalize (ofRoles mapping)).map Prod.fst).Pairwise (· < ·) := by
  rw [normalize_of_roles]
  apply by_key_ascends
  apply distinct_filter_map
  · rintro ⟨role, value⟩ entry same
    obtain ⟨items, _, rfl⟩ := (cleaned_eq_some role value entry).mp same
    rfl
  · rw [List.map_map]
    exact mapping.keys_nodup

theorem lists_ascend (mapping : Dict Json) :
    ∀ entry ∈ SiamService.normalize (ofRoles mapping), entry.2.Pairwise (· < ·) := by
  rintro ⟨role, ids⟩ member
  obtain ⟨items, _, rfl⟩ := (mem_normalize mapping role ids).mp member
  exact ascend_ascends _

/-- A role may connect after the normalization what it may connect before. -/
theorem allowed_normalize (mapping : Dict Json) (role instanceId : String) :
    instanceId ∈ (SiamService.normalize (ofRoles mapping)).allowed role ↔ Grants mapping role instanceId := by
  have distinct : ((SiamService.normalize (ofRoles mapping)).map Prod.fst).Nodup :=
    (roles_ascend mapping).imp fun below => ne_of_lt below
  have look := lookup_eq_some_iff distinct role
  unfold Mapping.allowed
  constructor
  · intro listed
    cases found : (SiamService.normalize (ofRoles mapping)).lookup role with
    | none => simp [found] at listed
    | some ids =>
        rw [found, Option.getD_some] at listed
        obtain ⟨items, held, rfl⟩ := (mem_normalize mapping role ids).mp ((look ids).mp found)
        rw [mem_ascend, mem_strings] at listed
        exact ⟨items, held, listed⟩
  · rintro ⟨items, held, listed⟩
    have found := (look _).mpr ((mem_normalize mapping role _).mpr ⟨items, held, rfl⟩)
    rw [found, Option.getD_some, mem_ascend, mem_strings]
    exact listed

theorem has_list_iff (mapping : Dict Json) (role : String) :
    HasList mapping role ↔ ∃ ids, (role, ids) ∈ SiamService.normalize (ofRoles mapping) := by
  constructor
  · rintro ⟨items, held⟩
    exact ⟨_, (mem_normalize mapping role _).mpr ⟨items, held, rfl⟩⟩
  · rintro ⟨ids, member⟩
    obtain ⟨items, held, _⟩ := (mem_normalize mapping role ids).mp member
    exact ⟨items, held⟩

theorem same_entries {mapping other : Dict Json} (same : SameGrants mapping other) (role : String)
    (ids : List String) (member : (role, ids) ∈ SiamService.normalize (ofRoles mapping)) :
    (role, ids) ∈ SiamService.normalize (ofRoles other) := by
  obtain ⟨items, held, rfl⟩ := (mem_normalize mapping role ids).mp member
  obtain ⟨others, held'⟩ := (same.1 role).mp ⟨items, held⟩
  have members : ∀ id, id ∈ stringsOf items ↔ id ∈ stringsOf others := by
    intro id
    have grants := same.2 role id
    simp only [Grants, held, held', Option.some.injEq, Json.arr.injEq, exists_eq_left'] at grants
    rw [mem_strings, mem_strings, grants]
  rw [(ascend_eq_iff _ _).mpr members]
  exact (mem_normalize other role _).mpr ⟨others, held', rfl⟩

theorem same_grants_symm {mapping other : Dict Json} (same : SameGrants mapping other) :
    SameGrants other mapping :=
  ⟨fun role => (same.1 role).symm, fun role id => (same.2 role id).symm⟩

/-- The normal form tells mappings apart exactly by what they grant. -/
theorem normalize_eq_iff (mapping other : Dict Json) :
    SiamService.normalize (ofRoles mapping) = SiamService.normalize (ofRoles other) ↔ SameGrants mapping other := by
  constructor
  · intro same
    constructor
    · intro role
      rw [has_list_iff, same, ← has_list_iff]
    · intro role instanceId
      rw [← allowed_normalize, same, allowed_normalize]
  · intro same
    apply table_eq_of_mem (roles_ascend mapping) (roles_ascend other)
    rintro ⟨role, ids⟩
    exact ⟨same_entries same role ids, same_entries (same_grants_symm same) role ids⟩

/-! A replacement by a mapping with the same normal form. -/

/-- The mapping the document gives. -/
def held (store : Store) : Mapping := mappingOf (store.siam.filter fun row => row.id = siamId)

/-- The write of a document is read back, whether it replaces one or is the first. -/
theorem held_saved {before after : World N} {doc : SiamRow} (own : doc.id = siamId)
    (saved : (save (!(before.store.siam.filter fun row => row.id = siamId).isEmpty) doc).run
      (exec outside) before = (.ok (), after)) : held after.store = SiamService.normalize doc.mapping := by
  have matched : decide (doc.id = siamId) = true := decide_eq_true own
  have stored {op : StoreOp} {answer : op.Res}
      (answered : exec outside (.store op) before = (.ok answer, after)) :
      after.store = (op.apply before.store).2 := by
    rcases exec_store outside op before with ⟨error, failed, _⟩ | ⟨_, applied⟩
    · rw [answered] at failed
      cases failed
    · rw [answered] at applied
      exact applied
  cases found : before.store.siam.find? fun row => row.id = siamId with
  | none =>
      have absent : (before.store.siam.filter fun row => row.id = siamId) = [] := by
        rw [← List.head?_filter] at found
        exact List.head?_eq_none_iff.mp found
      rw [absent] at saved
      have inserted := stored (run_perform_ok saved)
      simp only [held, mappingOf, inserted, StoreOp.apply, List.filter_append, absent, List.nil_append]
      simp [own]
  | some row =>
      have present : (before.store.siam.filter fun row => row.id = siamId) ≠ [] := by
        intro absent
        rw [← List.head?_filter, absent] at found
        cases found
      rw [List.isEmpty_eq_false_iff.mpr present] at saved
      have updated := stored (run_perform_ok saved)
      have overwritten := Editing.find_overwritten found matched
      simp only [decide_eq_true_eq] at overwritten
      simp only [held, mappingOf, updated, StoreOp.apply, List.head?_filter, overwritten]

theorem get_returned {before after : World N} {mapping : Mapping}
    (returned : SiamService.get.run (exec outside) before = (.ok mapping, after)) :
    mapping = held before.store ∧ after.store = before.store := by
  obtain ⟨rows, between, read, same⟩ := run_bind_ok returned
  cases same
  have answered := run_perform_ok read
  rcases exec_read outside (.selectSiam siamId) before rfl with ⟨error, failed, _⟩ | ⟨rows', kept⟩
  · rw [answered] at failed
    cases failed
  · rw [answered] at rows' kept
    cases rows'
    exact ⟨rfl, kept⟩

/-- The cascade of a replacement by what is already there is never asked. -/
theorem replace_mirrors (mapping : Json) (world : World N)
    (same : held world.store = SiamService.normalize mapping) (actor : CurrentUser) (requestId : Option String)
    (cascade cascade' : Mapping → Mapping → Option String → Hub Nat) :
    Mirrors (exec outside) (replace settings cascade actor mapping requestId)
      (replace settings cascade' actor mapping requestId) world := by
  apply mirrors_then
  intro before first read
  obtain ⟨rfl, kept⟩ := get_returned read
  apply mirrors_then
  intro updatedAt second ticked
  have still : second.store = first.store := by
    cases run_perform_ok ticked
    rfl
  apply mirrors_then
  intro existing third asked
  have answered := run_perform_ok asked
  have store : third.store = world.store ∧
      existing = world.store.siam.filter fun row => row.id = siamId := by
    rw [← kept, ← still]
    rcases exec_read outside (.selectSiam siamId) second rfl with ⟨error, failed, _⟩ | ⟨rows, stayed⟩
    · rw [answered] at failed
      cases failed
    · rw [answered] at rows stayed
      cases rows
      exact ⟨stayed, rfl⟩
  obtain ⟨stays, rfl⟩ := store
  rw [← stays]
  apply mirrors_then
  intro saved fourth written
  have reads := held_saved rfl written
  apply mirrors_then
  intro after fifth reread
  obtain ⟨rfl, _⟩ := get_returned reread
  apply mirrors_then
  intro recorded sixth logged
  -- What is read back is what was there.
  have unchanged : held third.store = held fourth.store := by
    rw [reads, stays, same]
    exact (Chronicle.normalize_written mapping).symm
  rw [← unchanged]
  simp only [Prog.when, ne_eq, not_true_eq_false, if_false]
  exact ⟨rfl, rfl⟩

theorem connections_kept (mapping : Json) (world : World N) (actor : CurrentUser)
    (requestId : Option String) :
    ((replace settings (fun _ _ _ => .ret 0) actor mapping requestId).run (exec outside) world).2.store.connections =
      world.store.connections := by
  have administers (op : Op) (state : World N) (administering : Footprint.Administering op)
      (same : state.store.connections = world.store.connections) :
      (exec outside op state).2.store.connections = world.store.connections := by
    cases op with
    | store statement =>
        rcases exec_moves outside statement state with kept | applied
        · rw [kept, same]
        · rw [applied]
          cases statement <;> first | exact same | cases administering
    | _ => rw [exec_elsewhere outside _ state (by rintro statement ⟨⟩), same]
  exact Keeping.keeps_replace administers _ actor mapping requestId (fun _ _ => Prog.keeps_ret 0) world rfl

/-- What the normalization of a mapping promises, beside another one. -/
structure Canonical (mapping other : Dict Json) : Prop where
  idempotent : SiamService.normalize (SiamService.normalize (ofRoles mapping)).toJson = SiamService.normalize (ofRoles mapping)
  roles : ((SiamService.normalize (ofRoles mapping)).map Prod.fst).Pairwise (· < ·)
  lists : ∀ entry ∈ SiamService.normalize (ofRoles mapping), entry.2.Pairwise (· < ·)
  allowed : ∀ role instanceId,
    instanceId ∈ (SiamService.normalize (ofRoles mapping)).allowed role ↔ Grants mapping role instanceId
  form : SiamService.normalize (ofRoles mapping) = SiamService.normalize (ofRoles other) ↔ SameGrants mapping other

/-- A replacement that does not ask its cascade, and leaves the connections alone. -/
structure Quiet (settings : Settings) (outside : Outside N) (actor : CurrentUser) (mapping : Json)
    (requestId : Option String) (world : World N) : Prop where
  cascade : ∀ cascade cascade', Mirrors (exec outside) (replace settings cascade actor mapping requestId)
    (replace settings cascade' actor mapping requestId) world
  connections : ∀ cascade, ((replace settings cascade actor mapping requestId).run (exec outside)
    world).2.store.connections = world.store.connections

/-- The normal form is canonical, so a mapping that grants what is granted already is
replaced without the cascade. -/
theorem normal_form_canonical (settings : Settings) (outside : Outside N) (mapping other : Dict Json) :
    Canonical mapping other ∧
      (SameGrants mapping other → ∀ actor requestId (world : World N),
        held world.store = SiamService.normalize (ofRoles mapping) →
          Quiet settings outside actor (ofRoles other) requestId world) := by
  have form := normalize_eq_iff mapping other
  constructor
  · exact ⟨Chronicle.normalize_written _, roles_ascend mapping, lists_ascend mapping,
      allowed_normalize mapping, form⟩
  · intro same actor requestId world current
    have mirrors := @replace_mirrors N settings outside (ofRoles other) world
      (current.trans (form.mpr same)) actor requestId
    refine ⟨mirrors, fun cascade => ?_⟩
    rw [(mirrors cascade fun _ _ _ => .ret 0).1]
    exact connections_kept (ofRoles other) world actor requestId

def shuffled : Dict Json := Dict.ofList [("user", .arr [.str "b", .str "a"]), ("admin", .arr [])]

def repeated : Dict Json :=
  Dict.ofList [("admin", .arr [.int 1]), ("user", .arr [.str "a", .str "b", .str "a"])]

def mappedWorld : World Unit :=
  ⟨{ Store.empty with
      siam := [{ id := siamId, mapping := ofRoles shuffled, updatedBy := "ann", updatedAt := 0 }] }, ()⟩

theorem repeated_quiet :
    Quiet sampleSettings (Outside.still unreachable) sampleUser (ofRoles repeated) none mappedWorld := by
  have same : SameGrants shuffled repeated := (normalize_eq_iff shuffled repeated).mp (by decide)
  exact (normal_form_canonical sampleSettings (Outside.still unreachable) shuffled repeated).2 same
    sampleUser none mappedWorld rfl

/-- Order, repetition and what is not a string do not count; an empty list does. -/
example :
    SiamService.normalize (.obj [("user", .arr [.str "b", .int 1, .str "a", .str "b"]), ("guest", .str "a"),
      ("admin", .arr [])]) = [("admin", []), ("user", ["a", "b"])] := by
  decide

end Lehen.Normalizing
