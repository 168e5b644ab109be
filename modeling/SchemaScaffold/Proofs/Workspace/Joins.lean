import SchemaScaffold.Proofs.Code.Lines
import SchemaScaffold.Proofs.Workspace.Names

/-! Paths that are joined of others. A path below a folder is the folder's path
and what is joined to it, and only an absolute path forgets about the folder. Names
without slashes are the components of the path that they are joined to. -/

namespace SchemaScaffold.Workspace.Path

/-! ## Joining paths -/

theorem isAbsolute_iff {path : String} :
    isAbsolute path = true ↔ ∃ rest, path.toList = '/' :: rest := by
  rw [isAbsolute, String.startsWith_string_iff]
  constructor
  · rintro ⟨rest, whole⟩
    exact ⟨rest, whole.symm⟩
  · rintro ⟨rest, whole⟩
    exact ⟨rest, whole.symm⟩

/-- What follows a text that is not empty does not make it absolute. -/
theorem isAbsolute_append {front : String} (some : front ≠ "") (behind : String) :
    isAbsolute (front ++ behind) = isAbsolute front := by
  rw [Bool.eq_iff_iff, isAbsolute_iff, isAbsolute_iff, String.toList_append]
  cases chars : front.toList with
  | nil => exact absurd (String.toList_eq_nil_iff.mp chars) some
  | cons head rest => simp

theorem isRelative_of_lacks {path : String} (noSlash : Code.Lacks '/' path) :
    isAbsolute path = false := by
  rw [Bool.eq_false_iff]
  intro absolute
  rcases isAbsolute_iff.mp absolute with ⟨rest, chars⟩
  exact noSlash (by simp [chars])

theorem join_of_absolute {path : String} (absolute : isAbsolute path = true) (base : String) :
    join base path = path := by
  rw [join, if_pos absolute]

theorem join_empty (path : String) : join "" path = path := by
  rw [join]
  split
  · rfl
  · simp

/-- What stands between a folder and a relative path below it. -/
def separator (base : String) : String := if base.isEmpty || endsInSlash base then "" else "/"

theorem join_of_relative {path : String} (relative : isAbsolute path = false) (base : String) :
    join base path = base ++ separator base ++ path := by
  rw [join, if_neg (Bool.eq_false_iff.mp relative), separator]
  split <;> simp

theorem separator_append {behind : String} (some : behind ≠ "") (front : String) :
    separator (front ++ behind) = separator behind := by
  have ends (path : String) : endsInSlash path = true ↔ path.toList.getLast? = .some '/' := by
    rw [endsInSlash_iff, List.getLast?_eq_some_iff]
    simp only [eq_comm]
  have sameEnd : endsInSlash (front ++ behind) = endsInSlash behind := by
    rw [Bool.eq_iff_iff, ends, ends, String.toList_append, List.getLast?_append]
    cases last : behind.toList.getLast? with
    | none =>
        rw [List.getLast?_eq_none_iff, String.toList_eq_nil_iff] at last
        exact absurd last some
    | some _ => simp
  rw [separator, separator, sameEnd]
  simp [some]

theorem join_assoc {front : String} (some : front ≠ "") (base behind : String) :
    join (join base front) behind = join base (join front behind) := by
  cases absolute : isAbsolute behind with
  | true => simp only [join_of_absolute absolute]
  | false =>
      have inner : isAbsolute (join front behind) = isAbsolute front := by
        rw [join_of_relative absolute, String.append_assoc, isAbsolute_append some]
      cases outer : isAbsolute front with
      | true => rw [join_of_absolute outer, join_of_absolute (inner.trans outer)]
      | false =>
          rw [join_of_relative (inner.trans outer), join_of_relative outer,
            join_of_relative absolute, join_of_relative absolute, separator_append some]
          simp only [String.append_assoc]

theorem join_ne_empty {front : String} (some : front ≠ "") (behind : String) :
    join front behind ≠ "" := by
  cases absolute : isAbsolute behind with
  | true =>
      rw [join_of_absolute absolute]
      rintro rfl
      exact absurd absolute (by decide)
  | false =>
      rw [join_of_relative absolute]
      simp [some]

/-- A path below a folder is made without the folder first. -/
theorem joinAll_eq_join {first : String} (some : first ≠ "") (base : String) (rest : List String) :
    joinAll base (first :: rest) = join base (joinAll "" (first :: rest)) := by
  have later (front : String) (some : front ≠ "") :
      rest.foldl join (join base front) = join base (rest.foldl join front) := by
    induction rest generalizing front with
    | nil => rfl
    | cons segment rest induction =>
        rw [List.foldl_cons, join_assoc some, induction _ (join_ne_empty some segment)]
        rfl
  rw [joinAll, List.foldl_cons, later first some, joinAll, List.foldl_cons, join_empty]

theorem segments_append_slash (front behind : String) :
    segments (front ++ "/" ++ behind) = segments front ++ segments behind :=
  Code.pieces_append rfl front behind

/-! ## Plain names -/

/-- A text that is the name of one file or folder. -/
structure IsPlainName (name : String) : Prop where
  noSlash : Code.Lacks '/' name
  named : Disk.isName name = true

instance (name : String) : Decidable (IsPlainName name) :=
  decidable_of_iff (Code.Lacks '/' name ∧ Disk.isName name = true)
    ⟨fun both => ⟨both.1, both.2⟩, fun plain => ⟨plain.noSlash, plain.named⟩⟩

namespace IsPlainName

variable {name : String}

theorem not_isRedundant (plain : IsPlainName name) : isRedundant name = false := by
  have named := plain.named
  rw [Disk.isName, Bool.and_eq_true, Bool.not_eq_true'] at named
  exact named.1

theorem ne_empty (plain : IsPlainName name) : name ≠ "" := by
  rintro rfl
  exact absurd plain.not_isRedundant (by decide)

theorem segments (plain : IsPlainName name) : Path.segments name = [name] :=
  plain.noSlash.pieces_eq

theorem isRelative (plain : IsPlainName name) : isAbsolute name = false :=
  isRelative_of_lacks plain.noSlash

theorem separator (plain : IsPlainName name) : separator name = "/" := by
  have noSlashEnd : endsInSlash name = false := by
    rw [Bool.eq_false_iff]
    intro ends
    rcases endsInSlash_iff.mp ends with ⟨front, chars⟩
    exact plain.noSlash (by simp [← chars])
  simp [Path.separator, noSlashEnd, plain.ne_empty]

end IsPlainName

variable {names : List String}

theorem isRelative_intercalate (some : names ≠ []) (plain : ∀ name ∈ names, IsPlainName name) :
    isAbsolute ("/".intercalate names) = false := by
  cases names with
  | nil => exact absurd rfl some
  | cons name rest =>
      have first := plain name List.mem_cons_self
      cases rest with
      | nil => rw [String.intercalate_singleton, first.isRelative]
      | cons next others =>
          rw [String.intercalate_cons_cons, String.append_assoc, isAbsolute_append first.ne_empty,
            first.isRelative]

theorem segments_intercalate (some : names ≠ []) (plain : ∀ name ∈ names, IsPlainName name) :
    segments ("/".intercalate names) = names :=
  Code.pieces_intercalate rfl some fun name isName => (plain name isName).noSlash

theorem intercalate_injective {others : List String} (some : names ≠ [])
    (plain : ∀ name ∈ names, IsPlainName name) (someOther : others ≠ [])
    (plainOther : ∀ name ∈ others, IsPlainName name)
    (same : "/".intercalate names = "/".intercalate others) : names = others := by
  rw [← segments_intercalate some plain, ← segments_intercalate someOther plainOther, same]

theorem separator_intercalate (some : names ≠ []) (plain : ∀ name ∈ names, IsPlainName name) :
    separator ("/".intercalate names) = "/" := by
  induction names with
  | nil => exact absurd rfl some
  | cons name rest induction =>
      rw [List.forall_mem_cons] at plain
      cases rest with
      | nil => rw [String.intercalate_singleton, plain.1.separator]
      | cons next others =>
          have later := induction (List.cons_ne_nil _ _) plain.2
          rw [String.intercalate_cons_cons, separator_append ?_, later]
          intro empty
          rw [empty] at later
          exact absurd later (by decide)

theorem joinAll_names (plain : ∀ name ∈ names, IsPlainName name) :
    joinAll "" names = "/".intercalate names := by
  induction names with
  | nil => rfl
  | cons name rest induction =>
      rw [List.forall_mem_cons] at plain
      cases rest with
      | nil => rw [joinAll, List.foldl_cons, join_empty, String.intercalate_singleton, List.foldl_nil]
      | cons next others =>
          have below := joinAll_eq_join (plain.2 next List.mem_cons_self).ne_empty name others
          have relative := isRelative_intercalate (List.cons_ne_nil _ _) plain.2
          rw [joinAll, List.foldl_cons, join_empty, ← joinAll, below, induction plain.2,
            join_of_relative relative, plain.1.separator, String.intercalate_cons_cons]

theorem joinAll_concat (some : names ≠ []) (plain : ∀ name ∈ names, IsPlainName name)
    {path : String} (relative : isAbsolute path = false) :
    joinAll "" (names ++ [path]) = "/".intercalate names ++ "/" ++ path := by
  have joined := joinAll_names plain
  rw [joinAll] at joined
  rw [joinAll, List.foldl_append, joined, List.foldl_cons, List.foldl_nil,
    join_of_relative relative, separator_intercalate some plain]

/-- A path of plain names is spelled plainly already. -/
theorem normal_joinAll (some : names ≠ []) (plain : ∀ name ∈ names, IsPlainName name) :
    normal (joinAll "" names) = "/".intercalate names := by
  have relative := isRelative_intercalate some plain
  have split := segments_intercalate some plain
  rw [joinAll_names plain, normal, components, split]
  cases names with
  | nil => exact absurd rfl some
  | cons name rest =>
      rw [List.forall_mem_cons] at plain
      have kept : rest.filter (fun segment => !isRedundant segment) = rest := by
        rw [List.filter_eq_self]
        intro segment isSegment
        rw [(plain.2 segment isSegment).not_isRedundant]
        rfl
      simp [relative, kept, plain.1.ne_empty]

end SchemaScaffold.Workspace.Path
