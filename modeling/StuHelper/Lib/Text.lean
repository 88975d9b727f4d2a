import Mathlib.Algebra.Order.BigOperators.Group.List
import Mathlib.Data.List.DropRight
import Mathlib.Data.Nat.Digits.Defs

/-!
# Text handling of the Go standard library

The functions of `strings` and `strconv` that the modelled code uses, on the
characters of a string: `TrimSpace`, `Trim`, `FieldsFunc`, `Split`, `Cut`, `HasPrefix`,
`Contains`, `Replace`, `Atoi` and `Itoa`.
-/

namespace Lib.Text

open List

variable {text : List Char} {α : Type}

/-- `unicode.IsSpace`, by code point. -/
def isSpace (char : Char) : Bool :=
  let code := char.toNat
  (9 ≤ code && code ≤ 13) || code = 0x20 || code = 0x85 || code = 0xa0 ||
    code = 0x1680 || (0x2000 ≤ code && code ≤ 0x200a) || code = 0x2028 ||
    code = 0x2029 || code = 0x202f || code = 0x205f || code = 0x3000

/-- `strings.TrimSpace` on characters. -/
def trim (text : List Char) : List Char :=
  (text.dropWhile isSpace).rdropWhile isSpace

/-- `strings.TrimSpace`. -/
def trimSpace (text : String) : String :=
  String.ofList (trim text.toList)

/-- `strings.FieldsFunc`: the maximal runs of characters that are not separators. -/
def fieldsFunc (separator : Char → Bool) : List Char → List (List Char)
  | [] => []
  | char :: rest =>
    if separator char then fieldsFunc separator rest
    else
      match rest, fieldsFunc separator rest with
      | next :: _, field :: fields =>
        if separator next then [char] :: field :: fields
        else (char :: field) :: fields
      | _, fields => [char] :: fields

/-- `strings.Split` at a character: as many parts as separators, and one more. -/
def split (separator : Char) : List Char → List (List Char)
  | [] => [[]]
  | char :: rest =>
    if char = separator then [] :: split separator rest
    else
      match split separator rest with
      | part :: parts => (char :: part) :: parts
      | [] => [[char]]

/-- `strings.Cut` at a character: the text before and after its first occurrence. -/
def cut (separator : Char) : List Char → Option (List Char × List Char)
  | [] => none
  | char :: rest =>
    if char = separator then some ([], rest)
    else (cut separator rest).map fun (before, after) => (char :: before, after)

/-- `strings.Trim` with one character in the cutset. -/
def trimChar (char : Char) (text : List Char) : List Char :=
  (text.dropWhile (· = char)).rdropWhile (· = char)

/-- `strings.Contains`. -/
def contains (part : List Char) : List Char → Bool
  | [] => part.isEmpty
  | char :: rest => part.isPrefixOf (char :: rest) || contains part rest

/-- `strings.Replace` of the first occurrence. -/
def replaceFirst (old new : List Char) : List Char → List Char
  | [] => if old.isEmpty then new else []
  | char :: rest =>
    if old.isPrefixOf (char :: rest) then new ++ (char :: rest).drop old.length
    else char :: replaceFirst old new rest

/-- `strings.Split` at a text that is not empty, once a number of characters has been skipped. -/
def splitText (separator : List Char) : Nat → List Char → List (List Char)
  | _, [] => [[]]
  | skip + 1, _ :: rest => splitText separator skip rest
  | 0, char :: rest =>
    if separator.isPrefixOf (char :: rest) then
      [] :: splitText separator (separator.length - 1) rest
    else
      match splitText separator 0 rest with
      | part :: parts => (char :: part) :: parts
      | [] => [[char]]

/-- The value of a run of decimal digits, most significant first. -/
def digitsValue : Nat → List Char → Option Nat
  | value, [] => some value
  | value, char :: rest =>
    if char.isDigit then
      digitsValue (10 * value + (char.toNat - '0'.toNat)) rest
    else none

/-- `strconv.Atoi` for 64-bit integers: an optional sign and at least one digit. -/
def atoi (text : List Char) : Option Int :=
  let parsed : Option Int :=
    match text with
    | [] => none
    | '-' :: digits =>
      if digits = [] then none
      else (digitsValue 0 digits).map fun value => -(value : Int)
    | '+' :: digits =>
      if digits = [] then none
      else (digitsValue 0 digits).map fun value => (value : Int)
    | digits => (digitsValue 0 digits).map fun value => (value : Int)
  parsed.filter fun value => -(2 ^ 63) ≤ value && value < 2 ^ 63

/-- `strconv.Itoa`. -/
def itoa : Int → List Char
  | .ofNat value => Nat.toDigits 10 value
  | .negSucc value => '-' :: Nat.toDigits 10 (value + 1)

/-- Trimming twice is trimming once. -/
theorem trim_trim (text : List Char) : trim (trim text) = trim text := by
  have settled : (trim text).dropWhile isSpace = trim text := by
    rw [dropWhile_eq_self_iff]
    intro nonempty
    have isPrefix : trim text <+: text.dropWhile isSpace := rdropWhile_prefix isSpace _
    have longer := isPrefix.length_le
    have head := dropWhile_get_zero_not isSpace text (by omega)
    simpa [isPrefix.getElem nonempty] using head
  calc trim (trim text) = (trim text).rdropWhile isSpace := by rw [trim, settled]
    _ = trim text := by rw [trim, rdropWhile_idempotent]

@[simp] theorem trimSpace_trimSpace (text : String) :
    trimSpace (trimSpace text) = trimSpace text := by
  simp only [trimSpace, String.toList_ofList, trim_trim]

/-- A text that neither starts nor ends with a space is left alone. -/
theorem trim_eq_self (first : ∀ char ∈ text.head?, isSpace char = false)
    (last : ∀ char ∈ text.getLast?, isSpace char = false) : trim text = text := by
  have kept : text.dropWhile isSpace = text := by
    cases text with
    | nil => rfl
    | cons char => simp [first char rfl]
  rw [trim, kept, rdropWhile_eq_self_iff]
  intro nonempty space
  have := last _ (getLast?_eq_some_getLast nonempty)
  simp [this] at space

theorem isSpace_of_head?_trim : ∀ char ∈ (trim text).head?, isSpace char = false := by
  intro char head
  have settled := trim_trim text
  cases trimmed : trim text with
  | nil => simp [trimmed] at head
  | cons first rest =>
    obtain rfl : first = char := by simpa [trimmed] using head
    by_contra space
    -- Dropping the space would make the trimmed text shorter.
    have shorter := congrArg length settled
    rw [trimmed, trim, dropWhile_cons_of_pos (by simpa using space)] at shorter
    have first := (List.rdropWhile_prefix isSpace (rest.dropWhile isSpace)).length_le
    have second := (dropWhile_suffix isSpace (l := rest)).length_le
    simp only [length_cons] at shorter
    omega

theorem isSpace_of_getLast?_trim : ∀ char ∈ (trim text).getLast?, isSpace char = false := by
  intro char last
  have nonempty : trim text ≠ [] := by
    intro empty
    simp [empty] at last
  rw [getLast?_eq_some_getLast nonempty, Option.mem_some_iff] at last
  rw [← last]
  exact Bool.eq_false_iff.mpr (rdropWhile_last_not isSpace _ nonempty)

theorem head?_trim_cons {char : Char} (rest : List Char) (solid : isSpace char = false) :
    (trim (char :: rest)).head? = some char := by
  rw [trim, dropWhile_cons_of_neg (by simp [solid]), rdropWhile]
  simp only [reverse_cons, head?_reverse]
  rw [dropWhile_append]
  split
  · simp [solid]
  · simp

/-! ## Fields -/

section Fields

variable {separator : Char → Bool} {char next : Char} {rest : List Char}

theorem fieldsFunc_separator (separates : separator char) :
    fieldsFunc separator (char :: rest) = fieldsFunc separator rest := by
  rw [fieldsFunc.eq_def]
  simp only [separates, if_true]

theorem fieldsFunc_single (solid : separator char = false) :
    fieldsFunc separator [char] = [[char]] := by
  simp [fieldsFunc, solid]

theorem fieldsFunc_before_separator (solid : separator char = false) (separates : separator next) :
    fieldsFunc separator (char :: next :: rest) = [char] :: fieldsFunc separator rest := by
  have skipped : fieldsFunc separator (next :: rest) = fieldsFunc separator rest :=
    fieldsFunc_separator separates
  rw [fieldsFunc.eq_def]
  simp only [solid, Bool.false_eq_true, if_false, skipped]
  cases fieldsFunc separator rest with
  | nil => rfl
  | cons => simp only [separates, if_true]

theorem fieldsFunc_solid (solid : separator char = false) (nextSolid : separator next = false) :
    ∃ field fields, fieldsFunc separator (next :: rest) = field :: fields ∧
      fieldsFunc separator (char :: next :: rest) = (char :: field) :: fields := by
  have some : ∃ field fields, fieldsFunc separator (next :: rest) = field :: fields := by
    rw [fieldsFunc.eq_def]
    simp only [nextSolid, Bool.false_eq_true, if_false]
    split
    · split <;> exact ⟨_, _, rfl⟩
    · exact ⟨_, _, rfl⟩
  obtain ⟨field, fields, found⟩ := some
  refine ⟨field, fields, found, ?_⟩
  rw [fieldsFunc.eq_def]
  simp only [solid, Bool.false_eq_true, if_false, found, nextSolid]

/-- The fields of a text with a separator inside are those of its two parts. -/
theorem fieldsFunc_append (separates : separator char) (before after : List Char) :
    fieldsFunc separator (before ++ char :: after) =
      fieldsFunc separator before ++ fieldsFunc separator after := by
  induction before with
  | nil => exact fieldsFunc_separator separates
  | cons first before ih =>
    by_cases firstSeparates : separator first
    · rw [cons_append, fieldsFunc_separator firstSeparates, ih,
        fieldsFunc_separator firstSeparates]
    have solid := Bool.eq_false_iff.mpr firstSeparates
    cases before with
    | nil =>
      rw [fieldsFunc_single solid]
      exact fieldsFunc_before_separator solid separates
    | cons second before =>
      simp only [cons_append] at ih ⊢
      by_cases secondSeparates : separator second
      · rw [fieldsFunc_separator secondSeparates, fieldsFunc_separator secondSeparates] at ih
        rw [fieldsFunc_before_separator solid secondSeparates, ih,
          fieldsFunc_before_separator solid secondSeparates, cons_append]
      · have nextSolid := Bool.eq_false_iff.mpr secondSeparates
        obtain ⟨field, fields, found, whole⟩ :=
          @fieldsFunc_solid separator first second before solid nextSolid
        obtain ⟨field', fields', found', whole'⟩ :=
          @fieldsFunc_solid separator first second (before ++ char :: after) solid nextSolid
        rw [found', found, cons_append, cons.injEq] at ih
        rw [whole', whole, ih.1, ih.2, cons_append]

theorem fieldsFunc_of_solid (solid : ∀ char ∈ text, separator char = false) (nonempty : text ≠ []) :
    fieldsFunc separator text = [text] := by
  induction text with
  | nil => contradiction
  | cons first rest ih =>
    obtain ⟨here, later⟩ := forall_mem_cons.mp solid
    cases rest with
    | nil => exact fieldsFunc_single here
    | cons second rest =>
      obtain ⟨_, _, found, whole⟩ :=
        @fieldsFunc_solid separator first second rest here (later second (by simp))
      rw [ih later (by simp), cons.injEq] at found
      rw [whole, ← found.1, ← found.2]

end Fields

/-! ## Decimal numbers -/

theorem digitsValue_append (value : Nat) (front back : List Char) :
    digitsValue value (front ++ back) =
      (digitsValue value front).bind fun value => digitsValue value back := by
  induction front generalizing value with
  | nil => rfl
  | cons char front ih =>
    rw [cons_append, digitsValue, digitsValue]
    split
    · exact ih _
    · rfl

theorem digitsValue_digitChar {value digit : Nat} (small : digit < 10) :
    digitsValue value [digit.digitChar] = some (10 * value + digit) := by
  have digits : ∀ digit < 10, digit.digitChar.isDigit ∧
      digit.digitChar.toNat - '0'.toNat = digit := by decide
  obtain ⟨isDigit, code⟩ := digits digit small
  simp only [digitsValue, isDigit, if_true, code]

theorem digitsValue_toDigits (value : Nat) :
    digitsValue 0 (Nat.toDigits 10 value) = some value := by
  induction value using Nat.strong_induction_on with
  | _ value ih =>
    by_cases small : value < 10
    · rw [Nat.toDigits_of_lt_base small, digitsValue_digitChar small]
      simp
    · rw [Nat.toDigits_of_base_le (by omega) (by omega), digitsValue_append,
        ih (value / 10) (by omega), Option.bind_some, digitsValue_digitChar (by omega)]
      congr 1
      omega

/-- Reading a number back. -/
theorem atoi_itoa {value : Nat} (fits : value < 2 ^ 63) :
    atoi (itoa value) = some (value : Int) := by
  have parsed : ∀ text, (∀ char ∈ text, char.isDigit) → text ≠ [] →
      atoi text = ((digitsValue 0 text).map fun (value : Nat) => (value : Int)).filter
        fun value => -(2 ^ 63) ≤ value && value < 2 ^ 63 := by
    intro text digits nonempty
    cases text with
    | nil => exact absurd rfl nonempty
    | cons char rest =>
      unfold atoi
      split
      next sign => simp_all
      next sign => simp_all
      next sign => simp_all
      next => cases digitsValue 0 (char :: rest) <;> rfl
  change atoi (Nat.toDigits 10 value) = _
  rw [parsed _ (fun char member => Nat.isDigit_of_mem_toDigits (by omega) (by omega) member)
    Nat.toDigits_ne_nil, digitsValue_toDigits, Option.map_some, Option.filter_some, if_pos]
  simp only [Bool.and_eq_true, decide_eq_true_eq]
  omega

example : trimSpace " vip\n" = "vip" := by decide

example : fieldsFunc (fun char => char = ';' || char = ',') "a=1;;b=2,".toList =
    ["a=1".toList, "b=2".toList] := by decide

example : atoi (itoa (-40)) = some (-40) := by decide

/-! ## Joined texts -/

theorem join_eq_empty_iff {texts : List String} :
    String.join texts = "" ↔ ∀ text ∈ texts, text = "" := by
  induction texts with
  | nil => exact iff_of_true rfl nofun
  | cons text texts ih =>
    rw [String.join_cons, String.append_eq_empty_iff, ih, forall_mem_cons]

theorem join_filter_ne_empty (texts : List String) :
    String.join (texts.filter (· ≠ "")) = String.join texts := by
  induction texts with
  | nil => rfl
  | cons text texts ih =>
    by_cases empty : text = ""
    · rw [filter_cons_of_neg (by simpa using empty), ih, String.join_cons, empty,
        String.empty_append]
    · rw [filter_cons_of_pos (by simpa using empty), String.join_cons, ih, String.join_cons]

theorem join_flatMap (texts : α → List String) (list : List α) :
    String.join (list.flatMap texts) =
      String.join (list.map fun one => String.join (texts one)) := by
  induction list with
  | nil => rfl
  | cons one list ih =>
    rw [flatMap_cons, String.join_append, ih, map_cons, String.join_cons]

/-- Sums whose parts are not larger agree only where the parts do. -/
theorem sum_map_eq_iff {fewer more : α → Nat} {list : List α}
    (le : ∀ one ∈ list, fewer one ≤ more one) :
    (list.map fewer).sum = (list.map more).sum ↔ ∀ one ∈ list, fewer one = more one := by
  induction list with
  | nil => simp
  | cons one list ih =>
    obtain ⟨here, later⟩ := forall_mem_cons.mp le
    have rest := sum_le_sum later
    rw [map_cons, map_cons, sum_cons, sum_cons, forall_mem_cons, ← ih later]
    omega

/-- Texts of which some are left out say the same only where those are empty. -/
theorem join_eq_iff (dropped : α → Bool) (text : α → String) (list : List α) :
    String.join (list.map fun one => if dropped one then "" else text one) =
        String.join (list.map text) ↔ ∀ one ∈ list, dropped one = true → text one = "" := by
  have shorter : ∀ one ∈ list,
      (if dropped one then "" else text one).length ≤ (text one).length := by
    intro one _
    split
    · exact Nat.zero_le _
    · exact Nat.le_refl _
  constructor
  · intro same one member out
    have long := congrArg String.length same
    rw [String.length_join, String.length_join, map_map, map_map] at long
    have equal := (sum_map_eq_iff shorter).mp long one member
    rw [if_pos out] at equal
    exact String.length_eq_zero_iff.mp equal.symm
  · intro empty
    apply congrArg
    apply map_congr_left
    intro one member
    split
    next isOut => exact (empty one member isOut).symm
    next => rfl

end Lib.Text
