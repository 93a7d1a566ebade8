import Mathlib.Data.List.Basic
import Retention.Proofs.Text
import Retention.Toml.Print

/-!
Quoted texts are read back, whichever way of quoting they take. On several lines quotes come in runs: a
run is read as a whole, so reading is followed with the quotes before it that are still to be read.
-/
namespace Retention.Toml.Quoted

/-! Escapes. -/

private theorem hexPadded_control : ∀ code < 128,
    (Text.hexPadded true 4 code).toList.length = 4 ∧
      scalar? (Text.hexPadded true 4 code).toList = some (Char.ofNat code) := by
  decide +kernel

theorem lt_of_not_isPlain {c : Char} (control : isPlain c ≠ true) : c.toNat < 128 := by
  by_contra large
  have beyond : c ≠ '\x7f' := by
    rintro rfl
    exact large (by decide)
  have printable : 0x20 ≤ c.toNat := by omega
  exact control (by simp [isPlain, beyond, printable])

/-- A character stands for itself, or for itself behind a backslash. -/
theorem escapedControl_cases (c : Char) :
    escapedControl c = [c] ∧ isPlain c = true ∧ c ≠ '\\' ∨
    ∃ code, escapedControl c = '\\' :: code ∧ ∀ rest,
      escaped? (code ++ rest) = some (c, rest) ∧ continuation? (code ++ rest) = none := by
  unfold escapedControl
  split
  case h_7 =>
    split
    · rename_i slash plain
      exact .inl ⟨rfl, plain, slash⟩
    · rename_i control
      obtain ⟨four, value⟩ := hexPadded_control c.toNat (lt_of_not_isPlain control)
      obtain ⟨x, y, z, w, digits⟩ := List.length_eq_four.mp four
      rw [digits, Char.ofNat_toNat] at value
      refine .inr ⟨_, rfl, fun rest => ⟨?_, rfl⟩⟩
      simp [digits, escaped?, value]
  all_goals exact .inr ⟨_, rfl, fun rest => ⟨rfl, rfl⟩⟩

/-! One line. -/

variable {quote : Char} {bound : Nat} {found text rest : List Char}

theorem lineFrom_close : lineFrom quote (bound + 1) found (quote :: rest) = some (found, rest) := by
  simp [lineFrom]

theorem lineFrom_plain {c : Char} (other : c ≠ quote) (slash : c ≠ '\\' ∨ quote ≠ '"')
    (plain : isPlain c = true) :
    lineFrom quote (bound + 1) found (c :: rest) = lineFrom quote bound (c :: found) rest := by
  have kept : ¬ (c = '\\' && quote = '"') = true := by simpa [Decidable.imp_iff_not_or] using slash
  rw [lineFrom, if_neg other, if_neg kept, if_pos plain]

theorem lineFrom_escape {c : Char} {code : List Char} (read : escaped? (code ++ rest) = some (c, rest)) :
    lineFrom '"' (bound + 1) found ('\\' :: code ++ rest) = lineFrom '"' bound (c :: found) rest := by
  simp [lineFrom, read]

theorem lineFrom_escapeFrom (text : List Char) (enough : text.length < bound) :
    lineFrom '"' bound found (escapeFrom false 0 text ++ '"' :: rest) =
      some (text.reverse ++ found, rest) := by
  induction text generalizing bound found with
  | nil =>
    obtain ⟨bound, rfl⟩ := Nat.exists_eq_add_of_lt enough
    exact lineFrom_close
  | cons c text ih =>
    obtain ⟨bound, rfl⟩ := Nat.exists_eq_add_one_of_ne_zero (Nat.ne_zero_of_lt enough)
    have later := @ih bound (c :: found) (by simpa using enough)
    rw [List.reverse_cons, List.append_assoc, List.singleton_append, ← later]
    by_cases quoted : c = '"'
    · subst quoted
      exact @lineFrom_escape _ _ _ '"' ['"'] rfl
    · simp only [escapeFrom, quoted, if_false, Bool.false_and, Bool.false_eq_true, List.append_assoc]
      obtain ⟨alone, plain, slash⟩ | ⟨code, escape, read⟩ := escapedControl_cases c
      · rw [alone]
        exact lineFrom_plain quoted (.inl slash) plain
      · rw [escape]
        exact lineFrom_escape (read _).1

theorem length_le_escapeFrom (several : Bool) (quotes : Nat) (text : List Char) :
    text.length ≤ (escapeFrom several quotes text).length := by
  induction text generalizing quotes with
  | nil => simp
  | cons c text ih =>
    have filled : 1 ≤ (escapedControl c).length := by
      obtain ⟨alone, -, -⟩ | ⟨code, escape, -⟩ := escapedControl_cases c
      · simp [alone]
      · simp [escape]
    have first := ih 0
    have next := ih (quotes + 1)
    unfold escapeFrom
    split
    · split <;> simp only [List.length_cons] <;> omega
    · split <;> simp only [List.length_cons, List.length_append] <;> omega

theorem line?_escapeFrom (text rest : List Char) :
    line? '"' (escapeFrom false 0 text ++ '"' :: rest) = some (.ofList text, rest) := by
  have enough := length_le_escapeFrom false 0 text
  rw [line?, lineFrom_escapeFrom text (by rw [List.length_append]; omega)]
  simp [finished]

/-- What is written between single quotes stands for itself. -/
theorem lineFrom_literal (plain : ∀ c ∈ text, isPlain c = true ∧ c ≠ '\'')
    (enough : text.length < bound) :
    lineFrom '\'' bound found (text ++ '\'' :: rest) = some (text.reverse ++ found, rest) := by
  induction text generalizing bound found with
  | nil =>
    obtain ⟨bound, rfl⟩ := Nat.exists_eq_add_of_lt enough
    exact lineFrom_close
  | cons c text ih =>
    obtain ⟨bound, rfl⟩ := Nat.exists_eq_add_one_of_ne_zero (Nat.ne_zero_of_lt enough)
    obtain ⟨head, tail⟩ := List.forall_mem_cons.mp plain
    rw [List.cons_append, lineFrom_plain head.2 (.inr (by decide)) head.1,
      ih tail (by simpa using enough), List.reverse_cons, List.append_assoc]
    rfl

theorem line?_literal (plain : ∀ c ∈ text, isPlain c = true ∧ c ≠ '\'') :
    line? '\'' (text ++ '\'' :: rest) = some (.ofList text, rest) := by
  rw [line?, lineFrom_literal plain (by rw [List.length_append]; omega)]
  simp [finished]

theorem plain_of_isLiteral (literal : isLiteral text = true) :
    ∀ c ∈ text, isPlain c = true ∧ c ≠ '\'' := by
  simp only [isLiteral, hasControl, hasLines, isControl, Bool.and_eq_true, Bool.not_eq_true',
    List.any_eq_false, List.contains_eq_mem, decide_eq_false_iff_not, Bool.and_eq_true, bne_iff_ne,
    not_and] at literal
  obtain ⟨⟨control, lines⟩, quote⟩ := literal
  intro c member
  have other (d : Char) (absent : d ∉ text) : c ≠ d := by
    rintro rfl
    exact absent member
  exact ⟨by simpa using control c member (other _ lines), other _ quote⟩

/-! Several lines. -/

/-- Up to two quotes before another character belong to the text. -/
theorem linesFrom_run {c : Char} {run : Nat} (some : 0 < run) (few : run ≤ 2) (other : c ≠ quote) :
    linesFrom quote (bound + 1) found (List.replicate run quote ++ c :: rest) =
      linesFrom quote bound (List.replicate run quote ++ found) (c :: rest) := by
  obtain ⟨more, rfl⟩ := Nat.exists_eq_add_one_of_ne_zero (Nat.ne_of_gt some)
  have inside : ∀ d ∈ List.replicate more quote, (decide (d = quote)) = true :=
    fun d member => decide_eq_true (List.mem_replicate.mp member).2
  have stop : ∀ d ∈ (c :: rest).head?, (decide (d = quote)) = false := by
    rintro _ ⟨⟩
    exact decide_eq_false other
  have below : more < 2 := by omega
  rw [List.replicate_succ, List.cons_append, linesFrom, if_pos rfl]
  simp only [Text.takeWhile_run inside stop, Text.dropWhile_run inside stop, List.length_replicate,
    if_pos below, List.replicate_succ, List.cons_append]

theorem linesFrom_close {run : Nat} (few : run ≤ 2) (apart : ∀ d ∈ rest.head?, d ≠ quote) :
    linesFrom quote (bound + 1) found
        (List.replicate run quote ++ quote :: quote :: quote :: rest) =
      some (List.replicate run quote ++ found, rest) := by
  have inside : ∀ d ∈ List.replicate (run + 2) quote, (decide (d = quote)) = true :=
    fun d member => decide_eq_true (List.mem_replicate.mp member).2
  have stop : ∀ d ∈ rest.head?, (decide (d = quote)) = false :=
    fun d first => decide_eq_false (apart d first)
  have whole : List.replicate run quote ++ quote :: quote :: quote :: rest =
      quote :: (List.replicate (run + 2) quote ++ rest) := by
    rw [← List.cons_append, ← List.replicate_succ, Nat.add_assoc, List.replicate_add, List.append_assoc]
    rfl
  have many : ¬ run + 2 < 2 := by omega
  have bounded : run + 2 ≤ 4 := by omega
  rw [whole, linesFrom, if_pos rfl]
  simp only [Text.takeWhile_run inside stop, Text.dropWhile_run inside stop, List.length_replicate,
    if_neg many, if_pos bounded, Nat.add_sub_cancel]

theorem linesFrom_feed (other : '\n' ≠ quote) :
    linesFrom quote (bound + 1) found ('\n' :: rest) = linesFrom quote bound ('\n' :: found) rest := by
  have kept : ¬ ('\n' = '\\' && quote = '"') = true := by simp
  rw [linesFrom, if_neg other, if_neg kept]
  rfl

theorem newline?_plain {c : Char} (plain : isPlain c = true) : newline? (c :: rest) = none := by
  unfold newline?
  split
  · rename_i same
    cases same
    cases plain
  · rename_i same
    cases same
    cases plain
  · rfl

theorem linesFrom_plain {c : Char} (other : c ≠ quote) (slash : c ≠ '\\' ∨ quote ≠ '"')
    (plain : isPlain c = true) :
    linesFrom quote (bound + 1) found (c :: rest) = linesFrom quote bound (c :: found) rest := by
  have kept : ¬ (c = '\\' && quote = '"') = true := by simpa [Decidable.imp_iff_not_or] using slash
  rw [linesFrom, if_neg other, if_neg kept, newline?_plain plain]
  exact if_pos plain

theorem linesFrom_escape {c : Char} {code : List Char} (read : escaped? (code ++ rest) = some (c, rest))
    (single : continuation? (code ++ rest) = none) :
    linesFrom '"' (bound + 1) found ('\\' :: code ++ rest) = linesFrom '"' bound (c :: found) rest := by
  simp [linesFrom, read, single]

/-- Quotes that are still to be read are read before the next character. -/
theorem linesFrom_pending {c : Char} {run n : Nat} (few : run ≤ 2) (other : c ≠ quote)
    (enough : n + 1 + run < bound) : ∃ left, n < left ∧
      linesFrom quote bound found (List.replicate run quote ++ c :: rest) =
        linesFrom quote (left + 1) (List.replicate run quote ++ found) (c :: rest) := by
  cases run with
  | zero =>
    obtain ⟨left, rfl⟩ := Nat.exists_eq_add_one_of_ne_zero (Nat.ne_zero_of_lt enough)
    exact ⟨left, Nat.lt_of_succ_lt_succ enough, rfl⟩
  | succ run =>
    obtain ⟨left, rfl⟩ : ∃ left, bound = left + 2 := ⟨bound - 2, by omega⟩
    exact ⟨left, by omega, linesFrom_run (Nat.succ_pos run) few other⟩

theorem replicate_pending (run : Nat) (text found rest : List Char) :
    List.replicate run quote ++ quote :: rest = List.replicate (run + 1) quote ++ rest ∧
    (quote :: text).reverse ++ (List.replicate run quote ++ found) =
      text.reverse ++ (List.replicate (run + 1) quote ++ found) := by
  constructor
  · rw [List.replicate_succ', List.append_assoc]
    rfl
  · rw [List.reverse_cons, List.append_assoc, List.replicate_succ]
    rfl

theorem linesFrom_escapeFrom (text : List Char) {run : Nat} (few : run ≤ 2)
    (apart : ∀ d ∈ rest.head?, d ≠ '"') (enough : text.length + run < bound) :
    linesFrom '"' bound found
        (List.replicate run '"' ++ (escapeFrom true run text ++ '"' :: '"' :: '"' :: rest)) =
      some (text.reverse ++ (List.replicate run '"' ++ found), rest) := by
  induction text generalizing run bound found with
  | nil =>
    obtain ⟨bound, rfl⟩ := Nat.exists_eq_add_one_of_ne_zero (Nat.ne_zero_of_lt enough)
    exact linesFrom_close few apart
  | cons c text ih =>
    -- After a character that is no quote the rest is read without quotes before it.
    have step (bound : Nat) (enough : text.length < bound) :
        linesFrom '"' bound (c :: (List.replicate run '"' ++ found))
            (escapeFrom true 0 text ++ '"' :: '"' :: '"' :: rest) =
          some ((c :: text).reverse ++ (List.replicate run '"' ++ found), rest) := by
      rw [List.reverse_cons, List.append_assoc]
      exact ih (Nat.zero_le 2) enough
    rw [List.length_cons] at enough
    by_cases quoted : c = '"'
    · subst quoted
      by_cases room : run < 2
      · have same : escapeFrom true run ('"' :: text) = '"' :: escapeFrom true (run + 1) text := by
          simp [escapeFrom, room]
        obtain ⟨shown, told⟩ := @replicate_pending '"' run text found
          (escapeFrom true (run + 1) text ++ '"' :: '"' :: '"' :: rest)
        rw [same, List.cons_append, shown, told]
        exact ih room (by omega)
      · have same : escapeFrom true run ('"' :: text) = '\\' :: '"' :: escapeFrom true 0 text := by
          simp [escapeFrom, room]
        obtain ⟨left, more, passed⟩ := linesFrom_pending few (by decide : '\\' ≠ '"') enough
        rw [same, List.cons_append, passed]
        exact (@linesFrom_escape _ _ _ '"' ['"'] rfl rfl).trans (step left more)
    · by_cases feed : c = '\n'
      · subst feed
        have same : escapeFrom true run ('\n' :: text) = '\n' :: escapeFrom true 0 text := by
          simp [escapeFrom]
        obtain ⟨left, more, passed⟩ := linesFrom_pending few quoted enough
        rw [same, List.cons_append, passed, linesFrom_feed quoted]
        exact step left more
      · have same : escapeFrom true run (c :: text) = escapedControl c ++ escapeFrom true 0 text := by
          simp [escapeFrom, quoted, feed]
        rw [same, List.append_assoc]
        obtain ⟨alone, plain, slash⟩ | ⟨code, escape, read⟩ := escapedControl_cases c
        · obtain ⟨left, more, passed⟩ := linesFrom_pending few quoted enough
          rw [alone, List.singleton_append, passed, linesFrom_plain quoted (.inl slash) plain]
          exact step left more
        · obtain ⟨left, more, passed⟩ := linesFrom_pending few (by decide : '\\' ≠ '"') enough
          rw [escape, List.cons_append, passed]
          exact (linesFrom_escape (read _).1 (read _).2).trans (step left more)

theorem linesFrom_literal (text : List Char) {run : Nat} (control : hasControl text = false)
    (few : longestRun '\'' run text ≤ 2) (apart : ∀ d ∈ rest.head?, d ≠ '\'')
    (enough : text.length + run < bound) :
    linesFrom '\'' bound found
        (List.replicate run '\'' ++ (text ++ '\'' :: '\'' :: '\'' :: rest)) =
      some (text.reverse ++ (List.replicate run '\'' ++ found), rest) := by
  induction text generalizing run bound found with
  | nil =>
    obtain ⟨bound, rfl⟩ := Nat.exists_eq_add_one_of_ne_zero (Nat.ne_zero_of_lt enough)
    exact linesFrom_close few apart
  | cons c text ih =>
    simp only [hasControl, List.any_cons, Bool.or_eq_false_iff] at control
    rw [List.length_cons] at enough
    rw [List.cons_append]
    by_cases quoted : c = '\''
    · subst quoted
      obtain ⟨shown, told⟩ := @replicate_pending '\'' run text found
        (text ++ '\'' :: '\'' :: '\'' :: rest)
      rw [shown, told]
      exact ih control.2 (by simpa [longestRun] using few) (by omega)
    · simp only [longestRun, quoted, if_false, Nat.max_le] at few
      obtain ⟨left, more, passed⟩ := linesFrom_pending few.1 quoted enough
      have first : linesFrom '\'' (left + 1) (List.replicate run '\'' ++ found)
          (c :: (text ++ '\'' :: '\'' :: '\'' :: rest)) =
            linesFrom '\'' left (c :: (List.replicate run '\'' ++ found))
              (text ++ '\'' :: '\'' :: '\'' :: rest) := by
        by_cases feed : c = '\n'
        · rw [feed]
          exact linesFrom_feed (by decide)
        · have plain : isPlain c = true := by simpa [isControl, feed] using control.1
          exact linesFrom_plain quoted (.inr (by decide)) plain
      rw [passed, first, List.reverse_cons, List.append_assoc]
      exact ih control.2 few.2 (by omega)

/-- A line end is put before a text with lines, and the reader drops it. -/
theorem newline?_opened {content : List Char}
    (plain : hasLines text = false → ∀ c ∈ (content ++ rest).head?, isPlain c = true) :
    (newline? (opened text content ++ rest)).getD (opened text content ++ rest) = content ++ rest := by
  unfold opened
  split
  · rfl
  · rename_i single
    cases start : content ++ rest with
    | nil => rfl
    | cons c more => rw [newline?_plain (plain (Bool.not_eq_true _ ▸ single) c (by rw [start]; rfl))]; rfl

/-! All ways of quoting. -/

/-- What is shown is a quoted text, unless more quotes follow. -/
def Quotes (shown : String) (text : List Char) : Prop :=
  ∃ quote body, shown.toList = quote :: body ∧ isQuote quote = true ∧
    ∀ rest, (∀ c ∈ rest.head?, isQuote c = false) →
      any? quote (body ++ rest) = some (.ofList text, rest)

theorem any?_line (apart : ∀ more, text ≠ quote :: quote :: more) :
    any? quote text = line? quote text := by
  unfold any?
  split
  · rename_i a b more
    refine if_neg fun both => ?_
    simp only [Bool.and_eq_true, decide_eq_true_eq] at both
    exact apart more (by rw [both.1, both.2])
  · rfl

theorem any?_lines : any? quote (quote :: quote :: text) = lines? quote text := by
  simp [any?]

/-- Every escaped text but the empty one begins with a character that is no unescaped quote. -/
theorem escapeFrom_cons (several : Bool) (quotes : Nat) (c : Char) (text : List Char) :
    ∃ first more, escapeFrom several quotes (c :: text) = first :: more ∧
      (first = '"' → several = true) ∧ (c ≠ '\n' → isPlain first = true) := by
  unfold escapeFrom
  split
  · split
    · rename_i room
      exact ⟨_, _, rfl, fun _ => (Bool.and_eq_true_iff.mp room).1, fun _ => rfl⟩
    · exact ⟨_, _, rfl, fun quoted => absurd quoted (by decide), fun _ => rfl⟩
  · rename_i quoted
    split
    · rename_i feed
      simp only [Bool.and_eq_true, decide_eq_true_eq] at feed
      exact ⟨_, _, rfl, fun _ => feed.1, fun other => absurd feed.2 other⟩
    · obtain ⟨alone, plain, -⟩ | ⟨code, escape, -⟩ := escapedControl_cases c
      · rw [alone]
        exact ⟨_, _, rfl, fun same => absurd same quoted, fun _ => plain⟩
      · rw [escape]
        exact ⟨_, _, rfl, fun same => absurd same (by decide), fun _ => rfl⟩

theorem ne_of_isQuote_false {c : Char} (other : isQuote c = false) : c ≠ '"' ∧ c ≠ '\'' := by
  simpa [isQuote] using other

theorem quotes_basic (text : List Char) : Quotes (basic text) text := by
  refine ⟨'"', escapeFrom false 0 text ++ ['"'], by simp [basic, between], rfl, fun rest apart => ?_⟩
  rw [List.append_assoc, List.singleton_append, any?_line, line?_escapeFrom]
  intro more same
  cases text with
  | nil =>
    cases same
    exact (ne_of_isQuote_false (apart '"' rfl)).1 rfl
  | cons c text =>
    obtain ⟨first, after, shape, single, -⟩ := escapeFrom_cons false 0 c text
    rw [shape] at same
    cases single (List.cons.inj same).1

theorem quotes_literal {text : List Char} (literal : isLiteral text = true) :
    Quotes (between "'" text) text := by
  have plain := plain_of_isLiteral literal
  refine ⟨'\'', text ++ ['\''], by simp [between], rfl, fun rest apart => ?_⟩
  rw [List.append_assoc, List.singleton_append, any?_line, line?_literal plain]
  intro more same
  cases text with
  | nil =>
    cases same
    exact (ne_of_isQuote_false (apart '\'' rfl)).2 rfl
  | cons c text => exact (plain c List.mem_cons_self).2 (List.cons.inj same).1

theorem quotes_multiBasic (text : List Char) : Quotes (multiBasic text) text := by
  have shape : (multiBasic text).toList =
      '"' :: ('"' :: '"' :: (opened text (escapeFrom true 0 text) ++ ['"', '"', '"'])) := by
    simp [multiBasic, between]
  refine ⟨'"', _, shape, rfl, fun rest apart => ?_⟩
  have plain : hasLines text = false →
      ∀ c ∈ (escapeFrom true 0 text ++ '"' :: '"' :: '"' :: rest).head?, isPlain c = true := by
    intro single c first
    cases text with
    | nil =>
      cases first
      rfl
    | cons d text =>
      obtain ⟨start, more, shape, -, plain⟩ := escapeFrom_cons true 0 d text
      rw [shape] at first
      cases first
      refine plain fun feed => ?_
      simp [hasLines, feed] at single
  have enough := length_le_escapeFrom true 0 text
  have outside : ∀ d ∈ rest.head?, d ≠ '"' := fun d first => (ne_of_isQuote_false (apart d first)).1
  have content := newline?_opened plain
  have read := @linesFrom_escapeFrom
    ((escapeFrom true 0 text ++ '"' :: '"' :: '"' :: rest).length + 1) [] rest text 0
    (Nat.zero_le 2) outside (by rw [List.length_append]; omega)
  simp only [List.cons_append, List.append_assoc, List.nil_append]
  simp only [List.replicate_zero, List.nil_append, List.append_nil] at read
  rw [any?_lines, lines?, content, read]
  simp [finished]

theorem quotes_multiLiteral {text : List Char} (control : hasControl text = false)
    (few : longestRun '\'' 0 text ≤ 2) : Quotes (between "'''" (opened text text)) text := by
  have shape : (between "'''" (opened text text)).toList =
      '\'' :: ('\'' :: '\'' :: (opened text text ++ ['\'', '\'', '\''])) := by
    simp [between]
  refine ⟨'\'', _, shape, rfl, fun rest apart => ?_⟩
  have plain : hasLines text = false →
      ∀ c ∈ (text ++ '\'' :: '\'' :: '\'' :: rest).head?, isPlain c = true := by
    intro single c first
    cases text with
    | nil =>
      cases first
      rfl
    | cons d text =>
      cases first
      have feed : c ≠ '\n' := by
        rintro rfl
        simp [hasLines] at single
      simp only [hasControl, List.any_cons, Bool.or_eq_false_iff] at control
      simpa [isControl, feed] using control.1
  have outside : ∀ d ∈ rest.head?, d ≠ '\'' := fun d first => (ne_of_isQuote_false (apart d first)).2
  have content := newline?_opened plain
  have read := @linesFrom_literal ((text ++ '\'' :: '\'' :: '\'' :: rest).length + 1) [] rest text 0
    control few outside (by rw [List.length_append]; omega)
  simp only [List.cons_append, List.append_assoc, List.nil_append]
  simp only [List.replicate_zero, List.nil_append, List.append_nil] at read
  rw [any?_lines, lines?, content, read]
  simp [finished]

theorem quotes_written (text : List Char) : Quotes (written text) text := by
  unfold written
  split
  · exact quotes_basic text
  split
  · rename_i literal
    exact quotes_literal literal
  split
  · exact quotes_multiBasic text
  split
  · rename_i few
    simp only [Bool.and_eq_true, Bool.not_eq_true', decide_eq_true_eq] at few
    exact quotes_multiLiteral few.1 few.2
  split
  · exact quotes_multiBasic text
  · exact quotes_basic text

end Retention.Toml.Quoted
