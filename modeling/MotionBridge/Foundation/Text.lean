import Mathlib.Data.List.DropRight

/-!
# Texts

A text is a list of characters, as the C++ standard library reads a `std::string` in
the C locale: its lines, its white space, and what lies before and after a character.
-/
namespace Foundation

abbrev Text := List Char

namespace Text

/-- `std::isspace` in the C locale. -/
def isspace (c : Char) : Bool := c ∈ [' ', '\t', '\n', '\r', Char.ofNat 11, Char.ofNat 12]

/-- The text without the white space around it. -/
def strip (text : Text) : Text := (text.dropWhile isspace).rdropWhile isspace

/-- Neither the first nor the last character is white space. -/
def Stripped (text : Text) : Prop := strip text = text

instance (text : Text) : Decidable (Stripped text) := inferInstanceAs (Decidable (_ = _))

theorem strip_eq_nil_iff (text : Text) : strip text = [] ↔ ∀ c ∈ text, isspace c = true := by
  rw [strip, List.rdropWhile_eq_nil_iff]
  constructor
  · intro blank c member
    rw [← List.takeWhile_append_dropWhile (p := isspace) (l := text)] at member
    rcases List.mem_append.mp member with leading | rest
    · exact List.mem_takeWhile_imp leading
    · exact blank c rest
  · intro blank c member
    exact blank c ((List.dropWhile_sublist isspace).subset member)

theorem mem_of_mem_strip {text : Text} {c : Char} (member : c ∈ strip text) : c ∈ text :=
  (List.dropWhile_sublist isspace).subset ((List.rdropWhile_prefix isspace _).subset member)

theorem strip_ends (text : Text) :
    (∀ c, (strip text).head? = some c → isspace c = false) ∧
      ∀ c, (strip text).getLast? = some c → isspace c = false := by
  constructor
  · intro c head
    -- dropping at the end leaves the first character where it is
    have start : (text.dropWhile isspace).head? = some c := by
      obtain ⟨rest, split⟩ := List.rdropWhile_prefix isspace (text.dropWhile isspace)
      rw [← split, List.head?_append, ← strip, head]
      rfl
    have stopped := List.head?_dropWhile_not isspace text
    rw [start] at stopped
    exact stopped
  · intro c final
    have nonempty : strip text ≠ [] := by
      intro empty
      simp [empty] at final
    have stopped := List.rdropWhile_last_not isspace (text.dropWhile isspace) nonempty
    have last := (List.getLast_eq_iff_getLast?_eq_some nonempty).mpr final
    change (List.rdropWhile isspace _).getLast nonempty = c at last
    simpa [last] using stopped

theorem stripped_iff (text : Text) : Stripped text ↔
    (∀ c, text.head? = some c → isspace c = false) ∧
      ∀ c, text.getLast? = some c → isspace c = false := by
  constructor
  · intro stripped
    rw [← stripped]
    exact strip_ends text
  · rintro ⟨head, final⟩
    have kept : text.dropWhile isspace = text := by
      cases text with
      | nil => rfl
      | cons c rest => simp [head c rfl]
    rw [Stripped, strip, kept, List.rdropWhile_eq_self_iff]
    intro nonempty
    simp [final _ (List.getLast?_eq_some_getLast nonempty)]

theorem stripped_strip (text : Text) : Stripped (strip text) :=
  (stripped_iff _).mpr (strip_ends text)

theorem Stripped.dropWhile {text : Text} (stripped : Stripped text) :
    text.dropWhile isspace = text := by
  cases text with
  | nil => rfl
  | cons c rest => simp [((stripped_iff _).mp stripped).1 c rfl]

/-- What stands between two stripped texts cannot be seen from outside. -/
theorem Stripped.append {first last : Text} (strippedFirst : Stripped first)
    (strippedLast : Stripped last) (nonemptyFirst : first ≠ []) (nonemptyLast : last ≠ [])
    (middle : Text) : Stripped (first ++ middle ++ last) := by
  rw [stripped_iff] at strippedFirst strippedLast ⊢
  constructor
  · intro c head
    apply strippedFirst.1 c
    rwa [List.append_assoc, List.head?_append_of_ne_nil _ nonemptyFirst] at head
  · intro c final
    apply strippedLast.2 c
    rwa [List.getLast?_append_of_ne_nil _ nonemptyLast] at final

/-- White space in front is dropped, and then nothing but the end is looked at. -/
theorem rdropWhile_append {p : Char → Bool} (first rest : Text) (kept : ∃ c ∈ rest, p c = false) :
    (first ++ rest).rdropWhile p = first ++ rest.rdropWhile p := by
  obtain ⟨c, member, holds⟩ := kept
  have nonempty : rest.reverse.dropWhile p ≠ [] := by
    intro empty
    rw [List.dropWhile_eq_nil_iff] at empty
    simp [empty c (List.mem_reverse.mpr member)] at holds
  simp [List.rdropWhile, List.dropWhile_append, nonempty]

/-- What stands before the first `c`, all of the text if there is none. -/
def before (c : Char) (text : Text) : Text := text.takeWhile (· != c)

/-- What stands after the first `c`. -/
def after (c : Char) (text : Text) : Text := (text.dropWhile (· != c)).tail

theorem not_mem_before (c : Char) (text : Text) : c ∉ before c text := by
  intro member
  simpa using List.mem_takeWhile_imp member

theorem mem_of_mem_after {c other : Char} {text : Text} (member : other ∈ after c text) :
    other ∈ text :=
  (List.dropWhile_sublist _).subset (List.mem_of_mem_tail member)

theorem before_of_not_mem {c : Char} {text : Text} (absent : c ∉ text) : before c text = text := by
  rw [before, List.takeWhile_eq_self_iff]
  intro other member
  have different : other ≠ c := ne_of_mem_of_not_mem member absent
  simp [different]

theorem before_append {c : Char} {first : Text} (absent : c ∉ first) (rest : Text) :
    before c (first ++ c :: rest) = first := by
  induction first with
  | nil => simp [before]
  | cons other first ih =>
    obtain ⟨different, absent⟩ := not_or.mp (List.mem_cons.not.mp absent)
    have rest := ih absent
    simp only [before] at rest ⊢
    simp [Ne.symm different, rest]

theorem after_append {c : Char} {first : Text} (absent : c ∉ first) (rest : Text) :
    after c (first ++ c :: rest) = rest := by
  induction first with
  | nil => simp [after]
  | cons other first ih =>
    obtain ⟨different, absent⟩ := not_or.mp (List.mem_cons.not.mp absent)
    have rest := ih absent
    simp only [after] at rest ⊢
    simp [Ne.symm different, rest]

/-- `std::string::find` for a character, `none` for `npos`. -/
def find (text : Text) (c : Char) : Option ℕ := text.findIdx? (· == c)

theorem find_none (text : Text) (c : Char) : find text c = none ↔ c ∉ text := by
  rw [find, List.findIdx?_eq_none_iff]
  constructor
  · intro different member
    simpa using different c member
  · intro absent other member
    simpa using ne_of_mem_of_not_mem member absent

theorem find_some {text : Text} {c : Char} {position : ℕ} (found : find text c = some position) :
    text.take position = before c text ∧ text.drop (position + 1) = after c text := by
  obtain ⟨_, index⟩ := List.findIdx?_eq_some_iff_findIdx_eq.mp found
  have same : (fun a => !(a != c)) = (· == c) := by
    funext a
    simp [bne]
  constructor
  · rw [before, List.takeWhile_eq_take_findIdx_not, same, index]
  · rw [after, List.dropWhile_eq_drop_findIdx_not, same, index, List.tail_drop]

/-- The lines `std::getline` returns call after call: a last line needs no line feed. -/
def lines : Text → List Text
  | [] => []
  | c :: rest =>
    if c = '\n' then [] :: lines rest
    else match lines rest with
      | [] => [[c]]
      | line :: more => (c :: line) :: more

/-- A single `std::getline`, with what it leaves in the stream. -/
def getline (text : Text) : Option (Text × Text) :=
  if text = [] then none else some (before '\n' text, after '\n' text)

theorem lines_getline (text : Text) : lines text =
    match getline text with
    | none => []
    | some (line, rest) => line :: lines rest := by
  induction text with
  | nil => rfl
  | cons c rest ih =>
    by_cases feed : c = '\n'
    · simp [lines, getline, before, after, feed]
    · cases rest with
      | nil => simp [lines, getline, before, after, feed]
      -- the first character joins the line that the rest begins with
      | cons d rest =>
        simp only [getline, List.cons_ne_nil, if_false] at ih ⊢
        rw [lines, if_neg feed, ih]
        simp [before, after, feed]

/-- Lines without a line feed of their own, each ended by one, are read back. -/
theorem lines_flatMap (written : List Text) (single : ∀ line ∈ written, '\n' ∉ line) :
    lines (written.flatMap (· ++ ['\n'])) = written := by
  induction written with
  | nil => rfl
  | cons line written ih =>
    have here := single line (List.mem_cons_self ..)
    have rest := ih fun other member => single other (List.mem_cons_of_mem _ member)
    rw [List.flatMap_cons, List.append_assoc, List.singleton_append, lines_getline]
    simp [getline, before_append here, after_append here, rest]

end Text

end Foundation
