import Lehen.AuditService
import Lehen.Paging
import Lehen.Requests
import Lehen.Timestamps
import Mathlib.Data.String.Basic

/-!
GET /admin/audit, read page by page while the Hub serves other requests. Events
are only ever added to the log, so a reader that goes on to a page that is not
full has seen every event that was there when it began.
-/

namespace Lehen.Listing

open Storage Timestamps Paging

/-- `SELECT FROM AdminAuditEvent ORDER BY ts DESC SKIP offset LIMIT limit`. How
events of one `ts` are ordered is up to the database. -/
def ListRecent (audits : List AdminAuditEvent) (limit offset : Nat) (rows : List AdminAuditEvent) : Prop :=
  ∃ listing : List AdminAuditEvent, listing.Perm audits ∧
    Newest (fun event => isoformat event.ts) listing ∧ rows = page listing limit offset

/-- What the endpoint selects is such a page. -/
theorem selected_recent (store : Store) (limit offset : Nat) :
    ListRecent store.audits limit offset ((StoreOp.selectAudits limit offset).apply store).1 := by
  have : Std.Total fun left right : AdminAuditEvent => isoformat right.ts ≤ isoformat left.ts :=
    ⟨fun left right => le_total (isoformat right.ts) (isoformat left.ts)⟩
  have : IsTrans AdminAuditEvent fun left right => isoformat right.ts ≤ isoformat left.ts :=
    ⟨fun first second third newer newer' => newer'.trans newer⟩
  exact ⟨newestFirst store.audits, List.perm_insertionSort _ _, List.pairwise_insertionSort _ _, rfl⟩

variable {N Req α : Type} (outside : Outside N) (serve : Req → Hub α)

abbrev AuditedPool (N Req α : Type) := Schedule.Pool (World N) Req Op Op.Res PyError α

/-- The Hub as the reader finds it at each page, with what it serves in between. -/
def poolAt (pool : AuditedPool N Req α) (between : Nat → List (Schedule.Event Req)) :
    Nat → AuditedPool N Req α
  | 0 => pool
  | k + 1 => (poolAt pool between k).play (exec outside) instant serve (between k)

variable {outside serve}

/-- No operation takes an event out of the log, or changes the order in it. -/
theorem audits_grow (audits : List AdminAuditEvent) (op : Op) (world : World N)
    (known : audits.Sublist world.store.audits) :
    audits.Sublist (exec outside op world).2.store.audits := by
  cases op with
  | store statement =>
      rcases exec_moves outside statement world with same | same
      · rwa [same]
      · rw [same]
        cases statement <;> first
          | exact known
          | exact known.trans (List.sublist_append_left _ _)
  | http request =>
      simp only [exec]
      split <;> exact known
  | _ => exact known

theorem audits_later {pool : AuditedPool N Req α} {between : Nat → List (Schedule.Event Req)} (k : Nat) :
    (poolAt outside serve pool between k).state.store.audits.Sublist
      (poolAt outside serve pool between (k + 1)).state.store.audits := by
  rw [poolAt]
  exact Schedule.play_state (fun world : World N => List.Sublist _ world.store.audits) (audits_grow _) _ _
    (List.Sublist.refl _)

theorem audits_within {pool : AuditedPool N Req α} {between : Nat → List (Schedule.Event Req)} {k last : Nat}
    (within : k ≤ last) :
    (poolAt outside serve pool between k).state.store.audits.Sublist
      (poolAt outside serve pool between last).state.store.audits := by
  induction within with
  | refl => exact List.Sublist.refl _
  | step _ ih => exact ih.trans (audits_later _)

/-- What is on a page is in the log. -/
theorem listed_recent {audits rows : List AdminAuditEvent} {limit offset : Nat}
    (recent : ListRecent audits limit offset rows) : ∀ event ∈ rows, event ∈ audits := by
  obtain ⟨listing, perm, _, rfl⟩ := recent
  intro event member
  exact perm.mem_iff.mp (List.mem_of_mem_drop (List.mem_of_mem_take member))

theorem text_lower {event other : AdminAuditEvent} (known : event.ts < maxInstant)
    (alike : other.ts < maxInstant) : isoformat other.ts ≤ isoformat event.ts ↔ other.ts ≤ event.ts := by
  rw [← not_lt, isoformat_order known alike, not_lt]

/-- A page lists newer events first, although it is sorted by the text. -/
theorem recent_newest {audits rows : List AdminAuditEvent} {limit offset : Nat}
    (dated : ∀ event ∈ audits, event.ts < maxInstant) (recent : ListRecent audits limit offset rows) :
    rows.Pairwise fun newer older => older.ts ≤ newer.ts := by
  have listed := listed_recent recent
  obtain ⟨listing, _, newest, rfl⟩ := recent
  refine (page_newest newest limit offset).imp_of_mem fun first second lower => ?_
  exact (text_lower (dated _ (listed _ first)) (dated _ (listed _ second))).mp lower

/-- Page by page to one that is not full, whatever the Hub serves in between: each
page lists newer events first, and an event that was in the log at the beginning,
of an instant of its own, was on one of them. -/
theorem pages_cover (pool : AuditedPool N Req α) (between : Nat → List (Schedule.Event Req))
    (limit last : Nat) (pages : Nat → List AdminAuditEvent)
    (read : ∀ k ≤ last,
      ListRecent (poolAt outside serve pool between k).state.store.audits limit (k * limit) (pages k))
    (short : (pages last).length < limit)
    (dated : ∀ event ∈ (poolAt outside serve pool between last).state.store.audits,
      event.ts < maxInstant) :
    (∀ k ≤ last, (pages k).Pairwise fun newer older => older.ts ≤ newer.ts) ∧
      ∀ event ∈ pool.state.store.audits,
        (∀ other ∈ (poolAt outside serve pool between last).state.store.audits,
          other.ts = event.ts → other = event) →
        ∃ k ≤ last, event ∈ pages k := by
  have grown (k : Nat) (within : k ≤ last) := @audits_within N Req α outside serve pool between k last within
  constructor
  · intro k within
    exact recent_newest (fun event member => dated event ((grown k within).subset member)) (read k within)
  · intro event present alone
    have total (k : Nat) : ∃ listing : List AdminAuditEvent, k ≤ last →
        listing.Perm (poolAt outside serve pool between k).state.store.audits ∧
          Newest (fun event => isoformat event.ts) listing ∧ pages k = page listing limit (k * limit) := by
      by_cases within : k ≤ last
      · obtain ⟨listing, perm, newest, same⟩ := read k within
        exact ⟨listing, fun _ => ⟨perm, newest, same⟩⟩
      · exact ⟨[], fun inside => absurd inside within⟩
    choose listing listed using total
    have atStart (k : Nat) : event ∈ (poolAt outside serve pool between k).state.store.audits :=
      (@audits_within N Req α outside serve pool between 0 k (Nat.zero_le k)).subset present
    have own := dated event (atStart last)
    have found (k : Nat) (within : k ≤ last) :
        (listing k)[ahead (fun event => isoformat event.ts) event (listing k)]? = some event := by
      obtain ⟨perm, newest, _⟩ := listed k within
      refine get_ahead newest (perm.mem_iff.mpr (atStart k)) fun other member same => ?_
      have later := (grown k within).subset (perm.mem_iff.mp member)
      have alike := dated other later
      apply alone other later
      exact le_antisymm ((text_lower own alike).mp same.le) ((text_lower alike own).mp same.ge)
    have back (k : Nat) (before : k < last) :
        ahead (fun event => isoformat event.ts) event (listing k) ≤
          ahead (fun event => isoformat event.ts) event (listing (k + 1)) := by
      rw [ahead_perm (listed k before.le).1, ahead_perm (listed (k + 1) before).1]
      exact ahead_grows (audits_later k)
    have ends := (listed last (Nat.le_refl last)).2.2
    rw [ends] at short
    obtain ⟨k, within, member⟩ := read_of_back found back short
    exact ⟨k, within, (listed k within).2.2 ▸ member⟩

/-! Two events and a page of two; then an event of a later instant is recorded, and the
next page begins with one that was on the first. -/

def sampleEvent (ts : Time) : AdminAuditEvent :=
  { id := "e", ts, actorSub := "u-0", actorUsername := "root", action := "llm.update"
    targetId := none, before := none, after := none, requestId := "r" }

def laterOutside : Outside Unit :=
  { Outside.still unreachable with clock := fun state => (3, state), uuid4 := fun state => ("e", state) }

def samplePool : AuditedPool Unit AuditService.AuditEvent Unit :=
  ⟨⟨{ Store.empty with audits := [sampleEvent 1, sampleEvent 2] }, ()⟩, []⟩

def sampleBetween (_ : Nat) : List (Schedule.Event AuditService.AuditEvent) :=
  [.start
      { actorSub := "u-0", actorUsername := "root", action := "llm.update", targetId := none
        before := none, after := none, requestId := some "r" },
    .resume 0, .resume 0]

def samplePages : Nat → List AdminAuditEvent
  | 0 => [sampleEvent 2, sampleEvent 1]
  | _ => [sampleEvent 1]

theorem sample_audits : (poolAt laterOutside (AuditService.record OAuth.sampleSettings) samplePool
    sampleBetween 1).state.store.audits = [sampleEvent 1, sampleEvent 2, sampleEvent 3] := rfl

theorem repeated_pages_cover : ∃ k ≤ 1, sampleEvent 1 ∈ samplePages k := by
  have lower (first second : Time) (known : first < maxInstant) (other : second < maxInstant)
      (less : first ≤ second) : isoformat first ≤ isoformat second :=
    (@text_lower (sampleEvent second) (sampleEvent first) other known).mpr less
  have read : ∀ k ≤ 1, ListRecent (poolAt laterOutside (AuditService.record OAuth.sampleSettings) samplePool
      sampleBetween k).state.store.audits 2 (k * 2) (samplePages k) := by
    intro k within
    interval_cases k
    · refine ⟨[sampleEvent 2, sampleEvent 1], List.Perm.swap _ _ _, ?_, rfl⟩
      simp only [Newest, List.pairwise_cons, List.mem_singleton, forall_eq, List.not_mem_nil,
        false_implies, implies_true, List.Pairwise.nil, and_true]
      exact lower 1 2 (by decide) (by decide) (by decide)
    · rw [sample_audits]
      refine ⟨[sampleEvent 1, sampleEvent 2, sampleEvent 3].reverse, List.reverse_perm _, ?_, rfl⟩
      simp only [Newest, List.reverse_cons, List.reverse_nil, List.nil_append, List.cons_append,
        List.pairwise_cons, List.mem_cons, forall_eq_or_imp, forall_eq,
        List.not_mem_nil, false_implies, implies_true, List.Pairwise.nil, and_true, or_false]
      exact ⟨⟨lower 2 3 (by decide) (by decide) (by decide), lower 1 3 (by decide) (by decide) (by decide)⟩,
        lower 1 2 (by decide) (by decide) (by decide)⟩
  have covered := pages_cover samplePool sampleBetween 2 1 samplePages read (by decide) (by
    rw [sample_audits]
    decide)
  refine covered.2 (sampleEvent 1) (by simp [samplePool]) ?_
  rw [sample_audits]
  intro other member same
  simp only [List.mem_cons, List.not_mem_nil, or_false] at member
  rcases member with rfl | rfl | rfl
  · rfl
  · cases same
  · cases same

end Lehen.Listing
