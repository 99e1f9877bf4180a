import Mathlib

/-!
# Logs of numbered sessions

A log in which sessions follow one another: every session opens once, under an id not
seen before, and its items carry increasing numbers and times that do not go back.
Such a log repeats no opening and no numbered item, and each session is one
contiguous block of it.
-/

namespace SessionLog

variable {Item Id Seq Time : Type*} [Preorder Seq] [Preorder Time]

/-- What a log reads off its items. -/
structure View (Item Id Seq Time : Type*) where
  session : Item → Id
  sequence : Item → Seq
  timestamp : Item → Time
  opens : Item → Bool
  first : Seq

/-- The items of one session, from its opening on. -/
structure Block (view : View Item Id Seq Time) (id : Id) (block : List Item) : Prop where
  opened : ∃ opening rest, block = opening :: rest ∧ view.opens opening = true ∧
    view.sequence opening = view.first ∧ ∀ item ∈ rest, view.opens item = false
  session : ∀ item ∈ block, view.session item = id
  ordered : block.Pairwise fun earlier later =>
    view.sequence earlier < view.sequence later ∧
      view.timestamp earlier ≤ view.timestamp later

/-- Blocks of distinct sessions, one after the other. -/
inductive Ledger (view : View Item Id Seq Time) : List Item → Prop where
  | nil : Ledger view []
  | append {log block : List Item} {id : Id} (closed : Ledger view log)
      (current : Block view id block) (fresh : ∀ item ∈ log, view.session item ≠ id) :
      Ledger view (log ++ block)

/-- A ledger whose last block may still grow, and the last item of that block. -/
structure Open (view : View Item Id Seq Time) (log : List Item) (id : Id) (last : Item) : Prop where
  cut : ∃ closed block, log = closed ++ block ∧ Ledger view closed ∧ Block view id block ∧
    (∀ item ∈ closed, view.session item ≠ id) ∧ block.getLast? = some last

variable {view : View Item Id Seq Time} {log : List Item} {id : Id} {last item : Item}

/-! ## Growing a log -/

namespace Block

theorem single (opens : view.opens item = true) (first : view.sequence item = view.first) :
    Block view (view.session item) [item] where
  opened := ⟨item, [], rfl, opens, first, by simp⟩
  session := by simp
  ordered := List.pairwise_singleton _ _

/-- Every item of a block precedes the next one when the last does. -/
theorem extend {block : List Item} (current : Block view id block)
    (latest : block.getLast? = some last) (same : view.session item = id)
    (continues : view.opens item = false)
    (newer : view.sequence last < view.sequence item)
    (notEarlier : view.timestamp last ≤ view.timestamp item) :
    Block view id (block ++ [item]) where
  opened := by
    obtain ⟨opening, rest, rfl, opens, first, others⟩ := current.opened
    refine ⟨opening, rest ++ [item], rfl, opens, first, ?_⟩
    intro other membership
    rcases List.mem_append.mp membership with inside | isItem
    · exact others other inside
    · rwa [List.mem_singleton.mp isItem]
  session := by
    intro other membership
    rcases List.mem_append.mp membership with inside | isItem
    · exact current.session other inside
    · rwa [List.mem_singleton.mp isItem]
  ordered := by
    obtain ⟨init, rfl⟩ := List.getLast?_eq_some_iff.mp latest
    refine List.pairwise_append.mpr ⟨current.ordered, List.pairwise_singleton _ _, ?_⟩
    intro earlier membership later isItem
    rw [List.mem_singleton.mp isItem]
    rcases List.mem_append.mp membership with inside | isLast
    · obtain ⟨lower, older⟩ :=
        (List.pairwise_append.mp current.ordered).2.2 earlier inside last (by simp)
      exact ⟨lower.trans newer, older.trans notEarlier⟩
    · rw [List.mem_singleton.mp isLast]
      exact ⟨newer, notEarlier⟩

end Block

namespace Open

theorem ledger (current : Open view log id last) : Ledger view log := by
  obtain ⟨closed, block, rfl, before, active, fresh, _⟩ := current.cut
  exact before.append active fresh

/-- A new session under an id the log has not seen. -/
theorem start (closed : Ledger view log) (opens : view.opens item = true)
    (first : view.sequence item = view.first)
    (fresh : ∀ other ∈ log, view.session other ≠ view.session item) :
    Open view (log ++ [item]) (view.session item) item where
  cut := ⟨log, [item], rfl, closed, .single opens first, fresh, rfl⟩

/-- One more item of the open session. -/
theorem extend (current : Open view log id last) (same : view.session item = id)
    (continues : view.opens item = false)
    (newer : view.sequence last < view.sequence item)
    (notEarlier : view.timestamp last ≤ view.timestamp item) :
    Open view (log ++ [item]) id item where
  cut := by
    obtain ⟨closed, block, rfl, before, active, fresh, latest⟩ := current.cut
    refine ⟨closed, block ++ [item], List.append_assoc _ _ _, before,
      active.extend latest same continues newer notEarlier, fresh, ?_⟩
    exact List.getLast?_concat

end Open

/-! ## What a ledger excludes -/

namespace Block

theorem filter_opens {block : List Item} (current : Block view id block) :
    ∃ opening, block.filter view.opens = [opening] ∧ view.session opening = id := by
  have session := current.session
  obtain ⟨opening, rest, rfl, opens, first, others⟩ := current.opened
  refine ⟨opening, ?_, session opening (by simp)⟩
  rw [List.filter_cons_of_pos opens, List.filter_eq_nil_iff.mpr]
  intro item membership
  simp [others item membership]

theorem nodup {block : List Item} (current : Block view id block) :
    (block.map fun item => (view.session item, view.sequence item)).Nodup := by
  refine List.pairwise_map.mpr (current.ordered.imp ?_)
  rintro earlier later ⟨lower, _⟩ same
  exact lower.ne (congrArg Prod.snd same)

end Block

namespace Ledger

/-- No session opens twice. -/
theorem nodup_openings (ledger : Ledger view log) :
    ((log.filter view.opens).map view.session).Nodup := by
  induction ledger with
  | nil => exact List.nodup_nil
  | append closed current fresh inductionHypothesis =>
      obtain ⟨opening, single, same⟩ := current.filter_opens
      rw [List.filter_append, List.map_append, single]
      refine List.nodup_append.mpr ⟨inductionHypothesis, List.nodup_singleton _, ?_⟩
      intro earlier membership later isOpening
      obtain ⟨item, inLog, rfl⟩ := List.mem_map.mp membership
      rw [List.mem_singleton.mp isOpening, same]
      exact fresh item (List.mem_of_mem_filter inLog)

/-- No numbered item of a session occurs twice. -/
theorem nodup (ledger : Ledger view log) :
    (log.map fun item => (view.session item, view.sequence item)).Nodup := by
  induction ledger with
  | nil => exact List.nodup_nil
  | append closed current fresh inductionHypothesis =>
      rw [List.map_append]
      refine List.nodup_append.mpr ⟨inductionHypothesis, current.nodup, ?_⟩
      rintro earlier membership later isLater rfl
      obtain ⟨item, inLog, shown⟩ := List.mem_map.mp membership
      obtain ⟨other, inBlock, same⟩ := List.mem_map.mp isLater
      have sessions := congrArg Prod.fst (shown.trans same.symm)
      exact fresh item inLog (sessions.trans (current.session other inBlock))

/-- The items of a session are one block, and none lies outside it. -/
theorem contiguous (ledger : Ledger view log) (membership : item ∈ log) :
    ∃ before block after, log = before ++ block ++ after ∧
      Block view (view.session item) block ∧
      ∀ other ∈ before ++ after, view.session other ≠ view.session item := by
  induction ledger with
  | nil => simp at membership
  | @append closed block id before current fresh inductionHypothesis =>
      rcases List.mem_append.mp membership with earlier | now
      · obtain ⟨front, inner, back, rfl, isBlock, outside⟩ := inductionHypothesis earlier
        refine ⟨front, inner, back ++ block, by simp, isBlock, ?_⟩
        intro other inOuter
        rw [← List.append_assoc] at inOuter
        rcases List.mem_append.mp inOuter with inClosed | inBlock
        · exact outside other inClosed
        · rw [current.session other inBlock]
          exact (fresh item earlier).symm
      · rw [current.session item now]
        refine ⟨closed, block, [], by simp, current, ?_⟩
        simpa using fresh

end Ledger

end SessionLog
