import SchemaScaffold.Json.Read

/-! What a reader makes of a text: it reads a value and leaves a rest, or it
refuses the text. The number of bytes consumed so far never decides between the
two, so both are stated for every such number. -/

namespace SchemaScaffold.Json.Reader

def Reads (reader : Reader α) (text : List Char) (value : α) (rest : List Char) : Prop :=
  ∀ consumed, ∃ consumed', reader ⟨text, consumed⟩ = .ok (value, ⟨rest, consumed'⟩)

def Refuses (reader : Reader α) (text : List Char) : Prop :=
  ∀ consumed, ∃ fault, reader ⟨text, consumed⟩ = .error fault

/-- A reader that reads the expected value, or refuses the text if none is
expected. -/
def Answers (reader : Reader α) (text : List Char) (rest : List Char) : Option α → Prop
  | some value => reader.Reads text value rest
  | none => reader.Refuses text

variable {α β : Type} {reader : Reader α} {next : α → Reader β} {text middle rest : List Char}

/-! ## Sequences -/

theorem Reads.bind {value : α} {result : β} (first : reader.Reads text value middle)
    (second : (next value).Reads middle result rest) :
    (reader >>= next).Reads text result rest := by
  intro consumed
  rcases first consumed with ⟨consumed', firstRead⟩
  rcases second consumed' with ⟨consumed'', secondRead⟩
  refine ⟨consumed'', ?_⟩
  change (reader ⟨text, consumed⟩ >>= fun pair => next pair.1 pair.2) = _
  rw [firstRead]
  exact secondRead

theorem Reads.bind_refuses {value : α} (first : reader.Reads text value middle)
    (second : (next value).Refuses middle) : (reader >>= next).Refuses text := by
  intro consumed
  rcases first consumed with ⟨consumed', firstRead⟩
  rcases second consumed' with ⟨fault, refused⟩
  refine ⟨fault, ?_⟩
  change (reader ⟨text, consumed⟩ >>= fun pair => next pair.1 pair.2) = _
  rw [firstRead]
  exact refused

theorem Refuses.bind (first : reader.Refuses text) : (reader >>= next).Refuses text := by
  intro consumed
  rcases first consumed with ⟨fault, refused⟩
  refine ⟨fault, ?_⟩
  change (reader ⟨text, consumed⟩ >>= fun pair => next pair.1 pair.2) = _
  rw [refused]
  rfl

/-- A sequence whose second part refuses everything refuses everything. -/
theorem refuses_bind (second : ∀ value text, (next value).Refuses text) :
    (reader >>= next).Refuses text := by
  intro consumed
  change ∃ fault, (reader ⟨text, consumed⟩ >>= fun pair => next pair.1 pair.2) = .error fault
  cases reader ⟨text, consumed⟩ with
  | error fault => exact ⟨fault, rfl⟩
  | ok pair => exact second pair.1 pair.2.rest pair.2.consumed

theorem Answers.bind {expected : Option α} {result : α → Option β}
    (first : reader.Answers text middle expected)
    (second : ∀ value, expected = some value → (next value).Answers middle rest (result value)) :
    (reader >>= next).Answers text rest (expected.bind result) := by
  cases expected with
  | none => exact Refuses.bind first
  | some value =>
      have continued := second value rfl
      change (reader >>= next).Answers text rest (result value)
      cases outcome : result value with
      | none =>
          rw [outcome] at continued
          exact Reads.bind_refuses first continued
      | some final =>
          rw [outcome] at continued
          exact Reads.bind first continued

/-- What follows a step that always succeeds decides. -/
theorem Reads.bind_answers {value : α} {expected : Option β}
    (first : reader.Reads text value middle)
    (second : (next value).Answers middle rest expected) :
    (reader >>= next).Answers text rest expected := by
  cases expected with
  | none => exact first.bind_refuses second
  | some result => exact first.bind second

/-! ## Single steps -/

theorem reads_pure (value : α) : Reads (pure value) text value text :=
  fun consumed => ⟨consumed, rfl⟩

theorem refuses_fail (reason : Reason) : (fail reason : Reader α).Refuses text :=
  fun _ => ⟨_, rfl⟩

theorem refuses_failAhead (reason : Reason) : (failAhead reason : Reader α).Refuses text :=
  fun _ => ⟨_, rfl⟩

theorem reads_peek : peek.Reads text text.head? text :=
  fun consumed => ⟨consumed, rfl⟩

theorem reads_advance {c : Char} : advance.Reads (c :: rest) () rest :=
  fun _ => ⟨_, rfl⟩

theorem reads_peekToken {c : Char} (notBlank : Cursor.isBlank c = false) :
    peekToken.Reads (c :: rest) (some c) (c :: rest) := by
  intro consumed
  refine ⟨consumed, ?_⟩
  change Except.ok ((Cursor.dropBlanks (c :: rest) consumed).rest.head?,
    Cursor.dropBlanks (c :: rest) consumed) = _
  simp [Cursor.dropBlanks, notBlank]

theorem reads_peekToken_nil : peekToken.Reads [] none [] :=
  fun consumed => ⟨consumed, rfl⟩

/-! ## White space in front -/

def IsBlankText (gap : List Char) : Prop := ∀ c ∈ gap, Cursor.isBlank c = true

theorem isBlankText_nil : IsBlankText [] := nofun

/-- The reader starts by passing over white space. -/
def SkipsBlanks (reader : Reader α) : Prop :=
  ∀ gap text, IsBlankText gap → ∀ consumed,
    reader ⟨gap ++ text, consumed⟩ = reader ⟨text, consumed + gap.length⟩

theorem dropBlanks_append {gap : List Char} (blank : IsBlankText gap)
    (text : List Char) (consumed : Nat) :
    Cursor.dropBlanks (gap ++ text) consumed
      = Cursor.dropBlanks text (consumed + gap.length) := by
  induction gap generalizing consumed with
  | nil => rfl
  | cons c others induction =>
      rw [List.cons_append, Cursor.dropBlanks, if_pos (blank c (List.mem_cons_self ..)),
        induction fun other isOther => blank other (List.mem_cons_of_mem _ isOther),
        List.length_cons, Nat.add_assoc, Nat.add_comm 1]

theorem skipsBlanks_peekToken : SkipsBlanks peekToken := by
  intro gap text blank consumed
  change Except.ok ((Cursor.dropBlanks (gap ++ text) consumed).rest.head?,
      Cursor.dropBlanks (gap ++ text) consumed)
    = Except.ok ((Cursor.dropBlanks text (consumed + gap.length)).rest.head?,
      Cursor.dropBlanks text (consumed + gap.length))
  rw [dropBlanks_append blank]

theorem SkipsBlanks.bind (first : reader.SkipsBlanks) : (reader >>= next).SkipsBlanks := by
  intro gap text blank consumed
  change (reader ⟨gap ++ text, consumed⟩ >>= fun pair => next pair.1 pair.2)
    = (reader ⟨text, consumed + gap.length⟩ >>= fun pair => next pair.1 pair.2)
  rw [first gap text blank consumed]

/-- White space in front does not change what is read. -/
theorem SkipsBlanks.reads {gap : List Char} {value : α} (skips : reader.SkipsBlanks)
    (blank : IsBlankText gap) (reads : reader.Reads text value rest) :
    reader.Reads (gap ++ text) value rest := by
  intro consumed
  rw [skips gap text blank]
  exact reads _

theorem SkipsBlanks.refuses {gap : List Char} (skips : reader.SkipsBlanks)
    (blank : IsBlankText gap) (refuses : reader.Refuses text) : reader.Refuses (gap ++ text) := by
  intro consumed
  rw [skips gap text blank]
  exact refuses _

theorem SkipsBlanks.answers {gap : List Char} {expected : Option α} (skips : reader.SkipsBlanks)
    (blank : IsBlankText gap) (answers : reader.Answers text rest expected) :
    reader.Answers (gap ++ text) rest expected := by
  cases expected with
  | some value => exact skips.reads blank answers
  | none => exact skips.refuses blank answers

/-! ## Words -/

theorem reads_word (letters : List Char) : (word letters).Reads (letters ++ rest) () rest := by
  induction letters with
  | nil => exact reads_pure ()
  | cons letter others induction =>
      apply reads_peek.bind
      simp only [List.cons_append, List.head?_cons, beq_self_eq_true, if_true]
      exact reads_advance.bind induction

/-- Nothing but white space is left to be read. -/
theorem reads_endText {gap : List Char} (blank : IsBlankText gap) : endText.Reads gap () [] := by
  rw [← List.append_nil gap]
  exact skipsBlanks_peekToken.bind.reads blank (reads_peekToken_nil.bind (reads_pure ()))

/-! ## Whole texts -/

theorem run_of_reads_blank {reader : (limit : Nat) → Reader α} {text : String} {value : α}
    {gap : List Char} (blank : IsBlankText gap)
    (read : (reader (text.toList.length + 1)).Reads text.toList value gap) :
    run reader text = .ok value := by
  rcases read 0 with ⟨consumed, equal⟩
  rcases reads_endText blank consumed with ⟨_, ended⟩
  simp [run, Cursor.ofText, equal, ended, bind, Except.bind, pure, Except.pure]

theorem run_of_reads {reader : (limit : Nat) → Reader α} {text : String} {value : α}
    (read : (reader (text.toList.length + 1)).Reads text.toList value []) :
    run reader text = .ok value :=
  run_of_reads_blank isBlankText_nil read

theorem run_of_refuses {reader : (limit : Nat) → Reader α} {text : String}
    (refused : (reader (text.toList.length + 1)).Refuses text.toList) :
    ∃ fault, run reader text = .error fault := by
  rcases refused 0 with ⟨fault, equal⟩
  exact ⟨fault, by simp [run, Cursor.ofText, equal, bind, Except.bind]⟩

end SchemaScaffold.Json.Reader
