import Mathlib

/-!
# Append-only logs

A log takes an item if its guard admits the item behind those already there.  In a log
whose items are numbered and may close it, the numbers increase and only the last item
closes the log.
-/

namespace AppendLog

variable {Item : Type*}

/-! ## Guards -/

section Guard

variable (admits : List Item → Item → Prop)

/-- The items can be appended to a log, one after the other. -/
def Grows (log : List Item) : List Item → Prop
  | [] => True
  | item :: later => admits log item ∧ Grows (log ++ [item]) later

/-- A log that was built by appending. -/
abbrev Built (log : List Item) : Prop := Grows admits [] log

variable {admits} {log : List Item} {item : Item}

theorem grows_append {first second : List Item} :
    Grows admits log (first ++ second) ↔
      Grows admits log first ∧ Grows admits (log ++ first) second := by
  induction first generalizing log with
  | nil => simp [Grows]
  | cons item first inductionHypothesis =>
      simp [Grows, inductionHypothesis, and_assoc]

/-- A log grows by one item at a time. -/
theorem built_concat : Built admits (log ++ [item]) ↔ Built admits log ∧ admits log item := by
  rw [Built, grows_append]
  simp [Grows]

end Guard

/-! ## Numbered logs that close -/

/-- What a log reads off its items. -/
structure View (Item Owner Number : Type*) where
  owner : Item → Owner
  number : Item → Number
  closes : Item → Bool

section Numbered

variable {Owner Number : Type*} [LinearOrder Number] (view : View Item Owner Number)

/-- The number of the last item, or the one below all numbers. -/
def last (below : Number) (log : List Item) : Number :=
  (log.getLast?.map view.number).getD below

/-- An item of the same owner with a higher number, behind a log that is not closed. -/
structure Follows (owner : Owner) (below : Number) (log : List Item) (item : Item) : Prop where
  owned : view.owner item = owner
  isOpen : ∀ earlier ∈ log, view.closes earlier = false
  later : last view below log < view.number item

variable {view} {owner : Owner} {below : Number} {log : List Item} {item : Item}

omit [LinearOrder Number] in
@[simp]
theorem last_concat : last view below (log ++ [item]) = view.number item := by
  simp [last]

/-- The numbers increase, and only the last item closes the log. -/
structure Ordered (view : View Item Owner Number) (owner : Owner) (below : Number)
    (log : List Item) : Prop where
  owned : ∀ item ∈ log, view.owner item = owner
  above : ∀ item ∈ log, below < view.number item
  increasing : log.Pairwise fun earlier later =>
    view.number earlier < view.number later ∧ view.closes earlier = false

theorem Ordered.le_last (ordered : Ordered view owner below log) (membership : item ∈ log) :
    view.number item ≤ last view below log := by
  cases log using List.reverseRecOn with
  | nil => cases membership
  | append_singleton log final =>
      rw [last_concat]
      rcases List.mem_append.mp membership with earlier | isFinal
      · have increasing := List.pairwise_append.mp ordered.increasing
        exact (increasing.2.2 item earlier final List.mem_cons_self).1.le
      · rw [List.mem_singleton.mp isFinal]

theorem Ordered.below_le_last (ordered : Ordered view owner below log) :
    below ≤ last view below log := by
  cases log using List.reverseRecOn with
  | nil => exact le_rfl
  | append_singleton log final =>
      rw [last_concat]
      exact (ordered.above final (by simp)).le

theorem ordered_concat : Ordered view owner below (log ++ [item]) ↔
    Ordered view owner below log ∧ Follows view owner below log item := by
  constructor
  · intro ordered
    have increasing := List.pairwise_append.mp ordered.increasing
    have first : Ordered view owner below log :=
      { owned := fun earlier membership => ordered.owned earlier (List.mem_append_left _ membership)
        above := fun earlier membership => ordered.above earlier (List.mem_append_left _ membership)
        increasing := increasing.1 }
    refine ⟨first, ordered.owned item (by simp), ?_, ?_⟩
    · exact fun earlier membership =>
        (increasing.2.2 earlier membership item List.mem_cons_self).2
    · cases log using List.reverseRecOn with
      | nil => exact ordered.above item (by simp)
      | append_singleton log final =>
          rw [last_concat]
          exact (increasing.2.2 final (by simp) item List.mem_cons_self).1
  · rintro ⟨first, follows⟩
    refine ⟨?_, ?_, ?_⟩
    · simpa [or_imp, forall_and] using ⟨first.owned, follows.owned⟩
    · simpa [or_imp, forall_and] using
        ⟨first.above, first.below_le_last.trans_lt follows.later⟩
    · refine List.pairwise_append.mpr ⟨first.increasing, List.pairwise_singleton _ _, ?_⟩
      intro earlier membership final isFinal
      rw [List.mem_singleton.mp isFinal]
      exact ⟨(first.le_last membership).trans_lt follows.later, follows.isOpen earlier membership⟩

/-- The logs that can be built are the ordered ones. -/
theorem built_iff_ordered :
    Built (Follows view owner below) log ↔ Ordered view owner below log := by
  induction log using List.reverseRecOn with
  | nil => exact iff_of_true trivial ⟨by simp, by simp, .nil⟩
  | append_singleton log item inductionHypothesis =>
      rw [built_concat, ordered_concat, inductionHypothesis]

/-- A log whose items are replaced by others with the same owner and number, which close it
where those did. -/
theorem Ordered.map {replace : Item → Item} (ordered : Ordered view owner below log)
    (ownerKept : ∀ item ∈ log, view.owner (replace item) = view.owner item)
    (numberKept : ∀ item ∈ log, view.number (replace item) = view.number item)
    (closesKept : ∀ item ∈ log, view.closes (replace item) = view.closes item) :
    Ordered view owner below (log.map replace) := by
  refine ⟨?_, ?_, ?_⟩
  · intro item membership
    obtain ⟨original, isOriginal, rfl⟩ := List.mem_map.mp membership
    exact (ownerKept original isOriginal).trans (ordered.owned original isOriginal)
  · intro item membership
    obtain ⟨original, isOriginal, rfl⟩ := List.mem_map.mp membership
    rw [numberKept original isOriginal]
    exact ordered.above original isOriginal
  · rw [List.pairwise_map]
    apply ordered.increasing.imp_of_mem
    intro earlier later isEarlier isLater increasing
    rw [numberKept earlier isEarlier, numberKept later isLater, closesKept earlier isEarlier]
    exact increasing

end Numbered

end AppendLog
