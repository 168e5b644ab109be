import SchemaScaffold.Proofs.Workspace.Joins

/-! Paths that stay inside a folder: what is joined to the folder's path is not
absolute, and its pairs of dots never lead above the folder. -/

namespace SchemaScaffold.Workspace.Path

/-! ## Staying below -/

/-- How far below its start a walk is after one more segment, if that does not lead
above the start. -/
def depthStep (depth : Nat) (segment : String) : Option Nat :=
  if isRedundant segment then some depth
  else if segment = ".." then if depth = 0 then none else some (depth - 1)
  else some (depth + 1)

def depthAfter (depth : Nat) (segments : List String) : Option Nat :=
  segments.foldlM depthStep depth

example : depthAfter 1 ["a", "..", "..", "b"] = some 1 := by decide +kernel

example : depthAfter 1 ["a", "..", "..", "..", "b"] = none := by decide +kernel

/-- A relative path that never climbs above its start. -/
def StaysBelow (path : String) : Prop :=
  isAbsolute path = false ∧ (depthAfter 0 (segments path)).isSome = true

instance (path : String) : Decidable (StaysBelow path) :=
  inferInstanceAs (Decidable (_ ∧ _))

/-- The path is that of a folder, followed by a relative path that stays below. -/
def LiesUnder (folder path : String) : Prop :=
  ∃ relative, path = join folder relative ∧ StaysBelow relative

/-- A path that is joined to every folder lies under all of them just if it stays
below. -/
theorem liesUnder_join_iff {path : String} :
    (∀ folder, LiesUnder folder (join folder path)) ↔ StaysBelow path := by
  constructor
  · intro lies
    rcases lies "" with ⟨relative, same, stays⟩
    rw [join_empty, join_empty] at same
    exact same ▸ stays
  · exact fun stays folder => ⟨path, rfl, stays⟩

/-- Below a folder the relative path is determined by the whole path. -/
theorem liesUnder_join_of_relative {path : String} (relative : isAbsolute path = false)
    (folder : String) : LiesUnder folder (join folder path) ↔ StaysBelow path := by
  constructor
  · rintro ⟨other, same, stays⟩
    rw [join_of_relative relative, join_of_relative stays.1, String.append_right_inj] at same
    exact same ▸ stays
  · exact fun stays => ⟨path, rfl, stays⟩

theorem depthAfter_append (depth : Nat) (front behind : List String) :
    depthAfter depth (front ++ behind)
      = (depthAfter depth front).bind fun below => depthAfter below behind :=
  List.foldlM_append

theorem depthAfter_name {name : String} (named : Disk.isName name = true) (depth : Nat) :
    depthAfter depth [name] = some (depth + 1) := by
  simp only [Disk.isName, Bool.and_eq_true, Bool.not_eq_true', bne_iff_ne] at named
  simp [depthAfter, depthStep, named.1, named.2]

theorem depthAfter_names {names : List String} (plain : ∀ name ∈ names, IsPlainName name)
    (depth : Nat) : depthAfter depth names = some (depth + names.length) := by
  induction names generalizing depth with
  | nil => rfl
  | cons name rest induction =>
      rw [List.forall_mem_cons] at plain
      have first := depthAfter_append depth [name] rest
      rw [depthAfter_name plain.1.named, Option.bind_some, induction plain.2] at first
      rw [List.length_cons, ← Nat.add_assoc, Nat.add_right_comm]
      exact first

theorem staysBelow_joinAll {names : List String} (some : names ≠ [])
    (plain : ∀ name ∈ names, IsPlainName name) : StaysBelow (joinAll "" names) := by
  rw [StaysBelow, joinAll_names plain, segments_intercalate some plain, depthAfter_names plain]
  exact ⟨isRelative_intercalate some plain, rfl⟩

theorem isAbsolute_joinAll_concat {names : List String} (some : names ≠ [])
    (plain : ∀ name ∈ names, IsPlainName name) (path : String) :
    isAbsolute (joinAll "" (names ++ [path])) = isAbsolute path := by
  cases absolute : isAbsolute path with
  | true =>
      rw [joinAll, List.foldl_append]
      exact (congrArg isAbsolute (join_of_absolute absolute _)).trans absolute
  | false =>
      have front := isRelative_intercalate some plain
      have notEmpty : "/".intercalate names ≠ "" := by
        intro empty
        have segments := segments_intercalate some plain
        rw [empty] at segments
        exact (plain "" (segments ▸ List.mem_cons_self)).ne_empty rfl
      rw [joinAll_concat some plain absolute, String.append_assoc, isAbsolute_append notEmpty, front]

/-- Below plain names a path may climb as far as they lead down. -/
theorem staysBelow_joinAll_concat {names : List String} (some : names ≠ [])
    (plain : ∀ name ∈ names, IsPlainName name) {path : String} :
    StaysBelow (joinAll "" (names ++ [path])) ↔
      isAbsolute path = false ∧ (depthAfter names.length (segments path)).isSome = true := by
  rw [StaysBelow, isAbsolute_joinAll_concat some plain]
  refine and_congr_right fun relative => ?_
  rw [joinAll_concat some plain relative, segments_append_slash, segments_intercalate some plain,
    depthAfter_append, depthAfter_names plain]
  simp

/-! ## Names with a suffix

A file is named by a text that a user chose and by a suffix. The folders that the
text leads through are those before its last segment. -/

/-- Whether the folders in a name lead above the folders that it is put in, as
many as `depth`. -/
def StaysWithin (depth : Nat) (name : String) : Prop :=
  isAbsolute name = false ∧ (depthAfter depth (segments name).dropLast).isSome = true

instance (depth : Nat) (name : String) : Decidable (StaysWithin depth name) :=
  inferInstanceAs (Decidable (_ ∧ _))

/-- A suffix that makes a proper name of whatever it is appended to. -/
structure IsSuffix (suffix : String) : Prop where
  noSlash : Code.Lacks '/' suffix
  ends : ∃ c, suffix.toList.getLast? = some c ∧ c ≠ '.'

theorem IsSuffix.isName_append {suffix : String} (isSuffix : IsSuffix suffix) (front : String) :
    Disk.isName (front ++ suffix) = true := by
  rcases isSuffix.ends with ⟨c, last, notDot⟩
  have ends : (front ++ suffix).toList.getLast? = some c := by
    rw [String.toList_append, List.getLast?_append, last]
    rfl
  have different (other : String) (otherEnd : other.toList.getLast? ≠ some c) :
      front ++ suffix ≠ other := by
    rintro rfl
    exact otherEnd ends
  have dot : (some '.' : Option Char) ≠ some c := fun equal => notDot (Option.some.inj equal).symm
  simp [Disk.isName, isRedundant, different "" (by simp), different "." (by simpa using dot),
    different ".." (by simpa using dot)]

theorem IsSuffix.isAbsolute_append {suffix : String} (isSuffix : IsSuffix suffix) (front : String) :
    isAbsolute (front ++ suffix) = isAbsolute front := by
  by_cases some : front = ""
  · rw [some, String.empty_append, isRelative_of_lacks isSuffix.noSlash]
    decide
  · exact Path.isAbsolute_append some suffix

theorem depthAfter_append_suffix {suffix : String} (isSuffix : IsSuffix suffix) (depth : Nat)
    (front : String) :
    (depthAfter depth (segments (front ++ suffix))).isSome
      = (depthAfter depth (segments front).dropLast).isSome := by
  rcases Text.exists_last_piece isSuffix.noSlash.isCut_eq_false front.toList with ⟨pieces, last, split, splitAll⟩
  have named := isSuffix.isName_append (String.ofList last)
  have joined : String.ofList last ++ suffix = String.ofList (last ++ suffix.toList) := by
    simp
  rw [joined] at named
  rw [segments, segments, Text.pieces, Text.pieces, String.toList_append, splitAll, split,
    List.map_append, List.map_append, List.map_singleton, List.map_singleton,
    List.dropLast_concat, depthAfter_append]
  cases depthAfter depth (pieces.map String.ofList) with
  | none => rfl
  | some below =>
      rw [Option.bind_some, depthAfter_name named]
      rfl

/-- Seen from a folder of the given depth, a file stays below just if the folders in
its name do. -/
theorem staysWithin_append_suffix {suffix : String} (isSuffix : IsSuffix suffix) (depth : Nat)
    (front : String) :
    (isAbsolute (front ++ suffix) = false ∧
        (depthAfter depth (segments (front ++ suffix))).isSome = true) ↔
      StaysWithin depth front := by
  rw [StaysWithin, isSuffix.isAbsolute_append, depthAfter_append_suffix isSuffix]

/-- A name without slashes leads through no folder. -/
theorem staysWithin_of_noSlash {name : String} (noSlash : Code.Lacks '/' name) (depth : Nat) :
    StaysWithin depth name := by
  refine ⟨isRelative_of_lacks noSlash, ?_⟩
  rw [segments, noSlash.pieces_eq]
  rfl

end SchemaScaffold.Workspace.Path
