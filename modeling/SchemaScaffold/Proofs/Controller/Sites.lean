import SchemaScaffold.Proofs.Code.Statements

/-! The places where only typed controllers state types. Each is known by the start of
its line. Comments, and lines that are indented in another way or start in another
way, are no such places and are the same in both languages. -/

namespace SchemaScaffold.Controller

open Code

/-! ## Types that are added -/

/-- A place where only typed controllers state types. -/
inductive Site where
  | referenceFields
  | normalizeReferences
  | header
  | catches
  | messages
deriving DecidableEq

namespace Site

def all : List Site := [referenceFields, normalizeReferences, header, catches, messages]

/-- How deep its lines are indented. -/
def level : Site → Nat
  | referenceFields => 0
  | normalizeReferences => 0
  | header => 0
  | catches => 1
  | messages => 3

/-- How its lines start there, whether or not they state types. -/
def opening : Site → String
  | referenceFields => "const referenceFields"
  | normalizeReferences => "const normalizeReferences = (body"
  | header => "export const "
  | catches => "\x7d catch (error"
  | messages => "const messages = Object.values(error.errors).map((err"

def start (site : Site) : String := Row.indentation site.level ++ site.opening

/-- The types on its lines, in their order. -/
def annotations : Site → List String
  | referenceFields => [": string[]"]
  | normalizeReferences => [": Record<string, any>"]
  | header => [": Request", ": Response"]
  | catches => [": any"]
  | messages => [": any"]

end Site

def site? (line : String) : Option Site :=
  Site.all.find? fun site => (after? site.start line).isSome

/-- A text without the first occurrence of a part. -/
def without (text part : String) : String :=
  match Text.around? part.toList text.toList with
  | some found => String.ofList (found.1 ++ found.2)
  | none => text

/-- A line without the types that are added at its site, if it is one. -/
def erased (line : String) : String :=
  match site? line with
  | some site => site.annotations.foldl without line
  | none => line

example : erased "  \x7d catch (error: any) \x7b" = "  \x7d catch (error) \x7b" := by decide +kernel

/-! ### Where sites are -/

theorem toList_indentation (level : Nat) :
    (Row.indentation level).toList = List.replicate (2 * level) ' ' := by
  induction level with
  | zero => rfl
  | succ level induction =>
      rw [indentation_succ, String.toList_append, induction, Nat.mul_succ, Nat.add_comm,
        ← List.replicate_append_replicate]
      rfl

/-- Lines that start alike are indented alike. -/
theorem prefix_of_indented {level level' : Nat} {opening text : List Char}
    (notBlank : ∀ c ∈ opening.head?, c ≠ ' ') (nonempty : opening ≠ [])
    (notBlank' : text.head? ≠ some ' ')
    (starts : List.replicate (2 * level) ' ' ++ opening
      <+: List.replicate (2 * level') ' ' ++ text) :
    level = level' ∧ opening <+: text := by
  have deeper (level : Nat) : List.replicate (2 * (level + 1)) ' '
      = ' ' :: ' ' :: List.replicate (2 * level) ' ' := by
    rw [Nat.mul_succ, List.replicate_succ, List.replicate_succ]
  induction level generalizing level' with
  | zero =>
      cases level' with
      | zero => exact ⟨rfl, by simpa using starts⟩
      | succ level' =>
          rcases List.exists_cons_of_ne_nil nonempty with ⟨c, rest, rfl⟩
          rw [deeper] at starts
          exact absurd (List.cons_prefix_cons.mp starts).1 (notBlank c rfl)
  | succ level induction =>
      rw [deeper] at starts
      cases level' with
      | zero =>
          refine absurd ?_ notBlank'
          rcases starts with ⟨behind, equal⟩
          simpa using congrArg List.head? equal.symm
      | succ level' =>
          rw [deeper] at starts
          have inside := (List.cons_prefix_cons.mp (List.cons_prefix_cons.mp starts).2).2
          obtain ⟨rfl, isPrefix⟩ := induction inside
          exact ⟨rfl, isPrefix⟩

namespace Site

theorem start_of_level_eq_zero {site : Site} (isLevel : site.level = 0) :
    site.start = site.opening := by
  rw [start, isLevel]
  exact String.empty_append

theorem opening_starts (site : Site) : ∃ c rest, site.opening.toList = c :: rest ∧ c ≠ ' ' := by
  cases site <;> exact ⟨_, _, rfl, by decide⟩

end Site

/-- A site is at its own level. -/
theorem prefix_start {site : Site} {level : Nat} {text : String}
    (notBlank : text.toList.head? ≠ some ' ')
    (starts : site.start.toList <+: (Row.indentation level ++ text).toList) :
    site.level = level ∧ site.opening.toList <+: text.toList := by
  rw [Site.start, String.toList_append, String.toList_append, toList_indentation,
    toList_indentation] at starts
  rcases site.opening_starts with ⟨c, rest, opens, notBlankFirst⟩
  exact prefix_of_indented (by simpa [opens] using notBlankFirst) (by simp [opens]) notBlank starts

theorem site?_eq_none {line : String} (apart : ∀ site : Site, ¬ site.start.toList <+: line.toList) :
    site? line = none := by
  rw [site?, List.find?_eq_none]
  intro site _
  rw [after?_eq_none (apart site)]
  simp

theorem site?_empty : site? "" = none := by
  refine site?_eq_none fun site starts => ?_
  rcases site.opening_starts with ⟨c, rest, opens, _⟩
  simp [Site.start, opens] at starts

theorem site?_start {site : Site} (rest : String) : site? (site.start ++ rest) = some site := by
  have only : (fun other : Site => (after? other.start (site.start ++ rest)).isSome)
      = fun other => decide (other = site) := by
    funext other
    by_cases same : other = site
    · simp [same]
    · have notHere : ¬ other.start.toList <+: (site.start ++ rest).toList := by
        rcases site.opening_starts with ⟨c, others, opens, notBlank⟩
        have parts : site.start ++ rest = Row.indentation site.level ++ (site.opening ++ rest) :=
          String.append_assoc
        rw [parts]
        intro starts
        obtain ⟨level, isPrefix⟩ := prefix_start (by simpa [opens] using notBlank) starts
        cases other <;> cases site <;>
          first | exact same rfl | exact absurd level (by decide) | simp [Site.opening] at isPrefix
      simp [after?_eq_none notHere, same]
  rw [site?, only]
  cases site <;> rfl

/-! ### Single lines -/

theorem without_append {part front text : String}
    (apart : Text.StartsBehind part.toList front.toList text.toList) :
    without (front ++ text) part = front ++ without text part := by
  rw [without, without, String.toList_append, Text.around?_append apart]
  cases Text.around? part.toList text.toList with
  | none => rfl
  | some found => simp [String.ofList_append]

theorem without_self (part behind : String) : without (part ++ behind) part = behind := by
  rw [without, String.toList_append, Text.around?_self]
  simp

/-! ### Lists of lines -/

/-- Lines with types at these sites, and the same lines without them. -/
structure Erases (typed untyped : List String) (sites : List Site) : Prop where
  erased : typed.map erased = untyped
  sameSites : typed.map site? = untyped.map site?
  sites : typed.filterMap site? = sites

namespace Erases

variable {typed untyped typed' untyped' : List String} {sites sites' : List Site}

theorem nil : Erases [] [] [] := ⟨rfl, rfl, rfl⟩

theorem append (front : Erases typed untyped sites) (behind : Erases typed' untyped' sites') :
    Erases (typed ++ typed') (untyped ++ untyped') (sites ++ sites') where
  erased := by rw [List.map_append, front.erased, behind.erased]
  sameSites := by rw [List.map_append, List.map_append, front.sameSites, behind.sameSites]
  sites := by rw [List.filterMap_append, front.sites, behind.sites]

theorem unmarked {lines : List String} (each : ∀ line ∈ lines, site? line = none) :
    Erases lines lines [] where
  erased := by
    conv => rhs; rw [← List.map_id lines]
    refine List.map_congr_left fun line isLine => ?_
    rw [Controller.erased, each line isLine]
    rfl
  sameSites := rfl
  sites := List.filterMap_eq_nil_iff.mpr each

theorem marked {site : Site} {line line' : String} (isSite : site? line = some site)
    (isSite' : site? line' = some site) (removed : site.annotations.foldl without line = line') :
    Erases [line] [line'] [site] where
  erased := by
    rw [List.map_singleton, Controller.erased, isSite]
    exact congrArg (fun line => [line]) removed
  sameSites := by rw [List.map_singleton, List.map_singleton, isSite, isSite']
  sites := List.filterMap_cons_some isSite

/-- A single type, right behind the start of its line. -/
theorem single {site : Site} {stated : String} (only : site.annotations = [stated])
    (isType : stated.toList.head? = some ':') (behind : String) :
    Erases [site.start ++ (stated ++ behind)] [site.start ++ behind] [site] := by
  have noType : Lacks ':' site.start := by cases site <;> decide
  have apart : Text.StartsBehind stated.toList site.start.toList
      (stated ++ behind).toList := by
    cases chars : stated.toList with
    | nil => simp [chars] at isType
    | cons c others =>
        rw [chars, List.head?_cons, Option.some.injEq] at isType
        exact .of_not_mem (isType ▸ noType)
  have removed : site.annotations.foldl without (site.start ++ (stated ++ behind))
      = site.start ++ behind := by
    rw [only, List.foldl_cons, List.foldl_nil, without_append apart, without_self]
  exact .marked (site?_start _) (site?_start _) removed

end Erases

/-! ### Other lines -/

/-- A text that opens no site at this level. -/
structure Apart (level : Nat) (text : String) : Prop where
  notBlank : text.toList.head? ≠ some ' '
  notSite : ∀ site : Site, site.level = level → ¬ site.opening.toList <+: text.toList

namespace Apart

variable {level : Nat} {text : String}

theorem site?_eq (apart : Apart level text) : site? (Row.indentation level ++ text) = none :=
  site?_eq_none fun _ starts =>
    apart.notSite _ (prefix_start apart.notBlank starts).1 (prefix_start apart.notBlank starts).2

theorem atFirst (notBlank : text.toList.head? ≠ some ' ')
    (notCatch : ¬ "\x7d catch".toList <+: text.toList) : Apart 1 text := by
  refine ⟨notBlank, fun site isLevel starts => ?_⟩
  cases site with
  | catches => exact notCatch (List.IsPrefix.trans (by decide) starts)
  | _ => cases isLevel

theorem atSecond (notBlank : text.toList.head? ≠ some ' ') : Apart 2 text :=
  ⟨notBlank, fun site isLevel => by cases site <;> cases isLevel⟩

theorem atThird (notBlank : text.toList.head? ≠ some ' ')
    (notMessages : ¬ "const messages".toList <+: text.toList) : Apart 3 text := by
  refine ⟨notBlank, fun site isLevel starts => ?_⟩
  cases site with
  | messages => exact notMessages (List.IsPrefix.trans (by decide) starts)
  | _ => cases isLevel

theorem atStart (different : ∀ c ∈ text.toList.head?, c ∉ ['c', 'e', ' ']) : Apart 0 text := by
  refine ⟨fun isBlank => different ' ' isBlank (by decide), fun site isLevel starts => ?_⟩
  rcases starts with ⟨behind, equal⟩
  rw [← equal] at different
  cases site with
  | catches => cases isLevel
  | messages => cases isLevel
  | _ => exact absurd (different _ rfl) (by decide)

end Apart

def HasNoSite (level : Nat) (fragments : List Fragment) : Prop :=
  ∀ line ∈ linesAt level fragments, site? line = none

namespace HasNoSite

variable {level : Nat}

theorem nil : HasNoSite level [] := List.forall_mem_nil _

theorem append {front behind : List Fragment} (inFront : HasNoSite level front)
    (inBehind : HasNoSite level behind) : HasNoSite level (front ++ behind) := by
  rw [HasNoSite, linesAt_append, List.forall_mem_append]
  exact ⟨inFront, inBehind⟩

theorem cons {fragment : Fragment} {rest : List Fragment} (first : HasNoSite level [fragment])
    (others : HasNoSite level rest) : HasNoSite level (fragment :: rest) :=
  first.append others

theorem line {text : String} (apart : Apart level text) : HasNoSite level [.line text] :=
  List.forall_mem_singleton.mpr apart.site?_eq

theorem braced {header ending : String} {body : List Fragment}
    (opens : Apart level (header ++ "\x7b")) (inside : HasNoSite (level + 1) body)
    (closes : Apart level ("\x7d" ++ ending)) : HasNoSite level [.braced header body ending] := by
  rw [HasNoSite, linesAt_braced, List.forall_mem_append, List.forall_mem_append,
    List.forall_mem_singleton, List.forall_mem_singleton]
  exact ⟨⟨opens.site?_eq, inside⟩, closes.site?_eq⟩

/-- A comment is marked by asterisks. -/
theorem docs (lines : List String) : HasNoSite 0 (Function.docFragments lines) := by
  have opening (rest : String) : site? ("/**" ++ rest) = none :=
    site?_eq_none fun site => by
      cases site <;> simp [Site.start, Site.level, Site.opening, toList_indentation]
  have inside (rest : String) : site? (" *" ++ rest) = none :=
    site?_eq_none fun site => by
      cases site <;> simp [Site.start, Site.level, Site.opening, toList_indentation]
  match lines with
  | [] => exact .nil
  | [line] =>
      have text : linesAt 0 [.remark line] = ["/**" ++ (" " ++ line ++ " */")] := by
        simp [linesAt, rowsOf, Fragment.rows, Row.line_atStart, remarkText, ← String.toList_inj]
      exact fun other isOther => List.mem_singleton.mp (text ▸ isOther) ▸ opening _
  | line :: line' :: rest =>
      have texts : linesAt 0 [.remarks (line :: line' :: rest)]
          = ["/**"] ++ (line :: line' :: rest).map remarkLine ++ [" */"] := by
        simp [linesAt, rowsOf, Fragment.rows, remarkRows, Row.line_atStart, Function.comp_def]
      change HasNoSite 0 [.remarks (line :: line' :: rest)]
      rw [HasNoSite, texts, List.forall_mem_append, List.forall_mem_append,
        List.forall_mem_singleton, List.forall_mem_singleton, List.forall_mem_map]
      refine ⟨⟨opening "", fun text _ => ?_⟩, inside "/"⟩
      rcases exists_remarkLine_eq text with ⟨rest, equal⟩
      rw [equal, inside]

end HasNoSite

end SchemaScaffold.Controller
