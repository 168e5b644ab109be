import Mathlib.Data.List.Basic
import SchemaScaffold.Collection

/-! The labels that several collections share. They are listed where they occur for
the second time, which need not be the order in which they occur first. -/

namespace SchemaScaffold

/-- A label is reported when it occurs for the second time. -/
theorem mem_repeatedLabels_go {label : String} {labels seen : List String} :
    label ∈ repeatedLabels.go labels seen
      ↔ seen.count label ≤ 1 ∧ 2 ≤ seen.count label + labels.count label := by
  induction labels generalizing seen with
  | nil =>
      simp only [repeatedLabels.go, List.not_mem_nil, List.count_nil, Nat.add_zero, false_iff]
      omega
  | cons head rest induction =>
      rw [repeatedLabels.go]
      by_cases same : label = head
      · subst same
        split
        · next second =>
            simp only [List.mem_cons_self, true_iff, List.count_cons_self, second]
            omega
        · next notSecond =>
            rw [induction, List.count_cons_self, List.count_cons_self]
            omega
      · have other : ¬ head = label := fun equal => same equal.symm
        split
        · rw [List.mem_cons, induction, List.count_cons_of_ne other, List.count_cons_of_ne other]
          simp [same]
        · rw [induction, List.count_cons_of_ne other, List.count_cons_of_ne other]

theorem mem_repeatedLabels {label : String} {collections : List Collection} :
    label ∈ repeatedLabels collections ↔ 2 ≤ (collections.map Collection.label).count label := by
  rw [repeatedLabels, mem_repeatedLabels_go]
  simp

/-- Where the second occurrence of a label is, counted from the labels that were not
seen before. -/
def placeBehind (seen labels : List String) (label : String) : Nat :=
  labels.idxOfNth label (1 - seen.count label)

theorem placeBehind_cons {head label : String} {rest seen : List String}
    (notTwice : (head :: seen).count label ≤ 1) :
    placeBehind seen (head :: rest) label = placeBehind (head :: seen) rest label + 1 := by
  unfold placeBehind
  by_cases same : head = label
  · subst same
    rw [List.count_cons_self] at notTwice ⊢
    have unseen : seen.count head = 0 := by omega
    rw [unseen, List.idxOfNth_cons_succ_of_beq (beq_self_eq_true head)]
  · rw [List.count_cons_of_ne same, List.idxOfNth_cons_of_not_beq (beq_false_of_ne same)]

/-- The labels are reported in the order of the second occurrences. -/
theorem pairwise_repeatedLabels_go (labels seen : List String) :
    (repeatedLabels.go labels seen).Pairwise fun label other =>
      placeBehind seen labels label < placeBehind seen labels other := by
  induction labels generalizing seen with
  | nil => exact List.Pairwise.nil
  | cons head rest induction =>
      have notTwice {label : String} (isLater : label ∈ repeatedLabels.go rest (head :: seen)) :
          (head :: seen).count label ≤ 1 :=
        (mem_repeatedLabels_go.mp isLater).1
      have later : (repeatedLabels.go rest (head :: seen)).Pairwise fun label other =>
          placeBehind seen (head :: rest) label < placeBehind seen (head :: rest) other := by
        refine (induction (head :: seen)).imp_of_mem fun isLabel isOther before => ?_
        rw [placeBehind_cons (notTwice isLabel), placeBehind_cons (notTwice isOther)]
        exact Nat.succ_lt_succ before
      rw [repeatedLabels.go]
      split
      · next second =>
          refine List.pairwise_cons.mpr ⟨fun other isOther => ?_, later⟩
          have first : placeBehind seen (head :: rest) head = 0 := by
            rw [placeBehind, second, List.idxOfNth_cons_zero_of_beq (beq_self_eq_true head)]
          rw [first, placeBehind_cons (notTwice isOther)]
          exact Nat.succ_pos _
      · exact later

/-- What a list of labels says about those that occur more than once. -/
structure ListsRepeats (labels repeats : List String) : Prop where
  mem_iff : ∀ label, label ∈ repeats ↔ 2 ≤ labels.count label
  once : repeats.Nodup
  /-- The order is that of the second occurrences. -/
  ordered : repeats.Pairwise fun label other => labels.idxOfNth label 1 < labels.idxOfNth other 1
  /-- It is that of the first occurrences as well just if no label is repeated between
  the first two occurrences of a label that comes before it. -/
  ordered_first_iff :
    (repeats.Pairwise fun label other => labels.idxOf label < labels.idxOf other) ↔
      ∀ label ∈ repeats, ∀ other ∈ repeats, labels.idxOf label < labels.idxOf other →
        labels.idxOfNth label 1 < labels.idxOfNth other 1

theorem ordered_first_iff {labels repeats : List String} (isPart : repeats ⊆ labels)
    (ordered : repeats.Pairwise fun label other =>
      labels.idxOfNth label 1 < labels.idxOfNth other 1) :
    (repeats.Pairwise fun label other => labels.idxOf label < labels.idxOf other) ↔
      ∀ label ∈ repeats, ∀ other ∈ repeats, labels.idxOf label < labels.idxOf other →
        labels.idxOfNth label 1 < labels.idxOfNth other 1 := by
  constructor
  · intro first label isLabel other isOther before
    -- Either of the two may be the one that is listed first.
    refine List.Pairwise.forall_of_forall_of_flip
      (R := fun label other => labels.idxOf label < labels.idxOf other →
        labels.idxOfNth label 1 < labels.idxOfNth other 1)
      (fun _ _ before => absurd before (Nat.lt_irrefl _)) ?_ ?_ isLabel isOther before
    · refine ordered.imp ?_
      exact fun second _ => second
    · refine first.imp ?_
      exact fun before after => absurd after (Nat.lt_asymm before)
  · intro agree
    refine ordered.imp_of_mem fun {label other} isLabel isOther second => ?_
    rcases Nat.lt_trichotomy (labels.idxOf label) (labels.idxOf other) with before | same | after
    · exact before
    · rw [(List.idxOf_inj (isPart isLabel)).mp same] at second
      exact absurd second (Nat.lt_irrefl _)
    · exact absurd second (Nat.lt_asymm (agree other isOther label isLabel after))

/-- Each label that occurs more than once is listed once, where it occurs again. -/
theorem repeatedLabels_listsRepeats (collections : List Collection) :
    ListsRepeats (collections.map Collection.label) (repeatedLabels collections) := by
  have ordered : (repeatedLabels collections).Pairwise fun label other =>
      (collections.map Collection.label).idxOfNth label 1
        < (collections.map Collection.label).idxOfNth other 1 :=
    pairwise_repeatedLabels_go _ []
  have isPart : repeatedLabels collections ⊆ collections.map Collection.label :=
    fun label isRepeated => List.count_pos_iff.mp
      (Nat.lt_of_lt_of_le Nat.zero_lt_two (mem_repeatedLabels.mp isRepeated))
  have once : (repeatedLabels collections).Nodup := by
    refine ordered.imp ?_
    rintro label _ before rfl
    exact Nat.lt_irrefl _ before
  exact ⟨fun _ => mem_repeatedLabels, once, ordered, ordered_first_iff isPart ordered⟩

/-- A label that is repeated inside another pair is listed before it. -/
theorem repeats_leave_first_order :
    ∃ collections : List Collection, ¬ (repeatedLabels collections).Pairwise fun label other =>
      (collections.map Collection.label).idxOf label
        < (collections.map Collection.label).idxOf other :=
  ⟨[⟨"a", []⟩, ⟨"b", []⟩, ⟨"b", []⟩, ⟨"a", []⟩], by decide⟩

end SchemaScaffold
