import Gamebook.Proofs.Json.Scalars
import Gamebook.Value.Shown

/-!
How messages show a value has no halves of surrogate pairs in it, nor the mark that spells them.
-/
namespace Gamebook

namespace Text

/-- A text in which every sign is a character. -/
def IsUnmarked (text : List Char) : Prop := mark ∉ text

theorem unmarked_append {a b : List Char} : IsUnmarked (a ++ b) ↔ IsUnmarked a ∧ IsUnmarked b := by
  simp [IsUnmarked, not_or]

theorem unmarked_cons {c : Char} {text : List Char} :
    IsUnmarked (c :: text) ↔ c ≠ mark ∧ IsUnmarked text := by
  simp [IsUnmarked, not_or, eq_comm]

theorem unmarked_replicate {c : Char} (apart : c ≠ mark) (count : Nat) :
    IsUnmarked (List.replicate count c) :=
  fun inside => apart (List.eq_of_mem_replicate inside).symm

theorem unmarked_toDigits {base : Nat} (large : 1 < base) (small : base ≤ 16) (number : Nat) :
    IsUnmarked (Nat.toDigits base number) := by
  have digit : ∀ value < 16, Nat.digitChar value ≠ mark := by decide
  induction number using Nat.strongRecOn with
  | ind number ih =>
    rw [Nat.toDigits_eq_if large]
    split
    · exact unmarked_cons.mpr ⟨digit number (by omega), List.not_mem_nil⟩
    · have positive : 0 < number := by omega
      refine unmarked_append.mpr ⟨ih _ (Nat.div_lt_self positive large), ?_⟩
      have bound : number % base < base := Nat.mod_lt _ (by omega)
      exact unmarked_cons.mpr ⟨digit _ (by omega), List.not_mem_nil⟩

theorem unmarked_escapeCode (code : Nat) : IsUnmarked (escapeCode code) := by
  have digits (width : Nat) : IsUnmarked (hexDigits width code) :=
    unmarked_append.mpr ⟨unmarked_replicate (by decide) _, unmarked_toDigits (by decide) (by decide) code⟩
  have prefixed (kind : Char) (apart : kind ≠ mark) (width : Nat) :
      IsUnmarked ('\\' :: kind :: hexDigits width code) :=
    unmarked_cons.mpr ⟨by decide, unmarked_cons.mpr ⟨apart, digits width⟩⟩
  unfold escapeCode
  split
  · exact prefixed 'x' (by decide) 2
  · split
    · exact prefixed 'u' (by decide) 4
    · exact prefixed 'U' (by decide) 8

/-- The mark is past everything that is printable. -/
theorem not_isPrintable_mark : isPrintable mark = false := by
  have past : ¬ mark.toNat < 127 := by decide
  have even : (printableBounds.toList.takeWhile (· ≤ mark.toNat)).length % 2 = 0 := by decide +kernel
  rw [isPrintable, if_neg past, ← Array.length_toList, Array.toList_takeWhile, even]
  rfl

theorem unmarked_escapeChar {quote : Char} (apart : quote ≠ mark) (c : Char) :
    IsUnmarked (escapeChar quote c) := by
  have backslash : '\\' ≠ mark := by decide
  have pair {c : Char} (apart : c ≠ mark) : IsUnmarked ['\\', c] :=
    unmarked_cons.mpr ⟨backslash, unmarked_cons.mpr ⟨apart, List.not_mem_nil⟩⟩
  unfold escapeChar
  split
  · rename_i special
    simp only [Bool.or_eq_true, decide_eq_true_eq] at special
    rcases special with rfl | rfl
    · exact pair apart
    · exact pair backslash
  split
  · exact pair (by decide)
  split
  · exact pair (by decide)
  split
  · exact pair (by decide)
  split
  · rename_i printable
    refine unmarked_cons.mpr ⟨?_, List.not_mem_nil⟩
    rintro rfl
    rw [not_isPrintable_mark] at printable
    cases printable
  · exact unmarked_escapeCode _

theorem unmarked_quoted (text : String) : IsUnmarked (quoted text).toList := by
  have quote : quoteFor text.toList ≠ mark := by
    unfold quoteFor
    split <;> decide
  have escaped : IsUnmarked ((signs text.toList).flatMap (escapeIn (quoteFor text.toList))) := by
    intro inside
    obtain ⟨sign, _, within⟩ := List.mem_flatMap.mp inside
    revert within
    unfold escapeIn
    split
    · exact unmarked_escapeChar quote _
    · exact unmarked_escapeCode _
  rw [quoted, String.toList_ofList]
  exact unmarked_cons.mpr ⟨quote, unmarked_append.mpr
    ⟨escaped, unmarked_cons.mpr ⟨quote, List.not_mem_nil⟩⟩⟩

end Text

namespace Value
open Text

theorem unmarked_digits (number : Nat) : IsUnmarked (Nat.toDigits 10 number) :=
  unmarked_toDigits (by decide) (by decide) number

theorem unmarked_sign (negative : Bool) : IsUnmarked (if negative then ['-'] else []) := by
  cases negative
  · exact List.not_mem_nil
  · exact unmarked_cons.mpr ⟨by decide, List.not_mem_nil⟩

theorem unmarked_int (value : Int) : IsUnmarked (toString value).toList := by
  rw [Json.toList_int]
  exact unmarked_append.mpr ⟨unmarked_sign _, unmarked_digits _⟩

theorem unmarked_decimal (decimal : Decimal) : IsUnmarked decimal.text := by
  have digits := unmarked_digits decimal.digits
  have front (count : Nat) : IsUnmarked ((Nat.toDigits 10 decimal.digits).take count) :=
    fun inside => digits (List.mem_of_mem_take inside)
  have back (count : Nat) : IsUnmarked ((Nat.toDigits 10 decimal.digits).drop count) :=
    fun inside => digits (List.mem_of_mem_drop inside)
  have zeros (count : Int) : IsUnmarked (Decimal.zeros count) := unmarked_replicate (by decide) _
  have point : '.' ≠ mark := by decide
  have exponent (value : Int) : IsUnmarked ('e' :: Decimal.signedExponent value) := by
    refine unmarked_cons.mpr ⟨by decide, unmarked_cons.mpr ⟨?_, ?_⟩⟩
    · split <;> decide
    · exact unmarked_append.mpr ⟨zeros _, unmarked_digits _⟩
  unfold Decimal.text
  dsimp only
  split
  · split
    · exact unmarked_cons.mpr ⟨by decide, unmarked_cons.mpr ⟨point, unmarked_append.mpr ⟨zeros _, digits⟩⟩⟩
    · refine unmarked_append.mpr ⟨unmarked_append.mpr ⟨front _, zeros _⟩, unmarked_cons.mpr ⟨point, ?_⟩⟩
      split
      · exact back _
      · exact unmarked_cons.mpr ⟨by decide, List.not_mem_nil⟩
  · refine unmarked_append.mpr ⟨unmarked_append.mpr ⟨front 1, ?_⟩, exponent _⟩
    split
    · exact List.not_mem_nil
    · exact unmarked_cons.mpr ⟨point, back 1⟩

theorem unmarked_real (value : Double) : IsUnmarked value.text.toList := by
  have nan : mark ∉ "nan".toList := by decide
  have infinity : mark ∉ "inf".toList := by decide
  cases value with
  | nan => exact nan
  | infinite negative =>
    rw [Double.text, Double.textWith, String.toList_append]
    refine unmarked_append.mpr ⟨?_, infinity⟩
    cases negative
    · exact List.not_mem_nil
    · exact unmarked_cons.mpr ⟨by decide, List.not_mem_nil⟩
  | finite negative units fits =>
    rw [Double.text, Double.textWith, String.toList_ofList, Double.magnitudeText]
    refine unmarked_append.mpr ⟨unmarked_sign negative, ?_⟩
    split
    · have zero : mark ∉ ['0', '.', '0'] := by decide
      exact zero
    · exact unmarked_decimal _

theorem unmarked_commas {parts : List String} (each : ∀ part ∈ parts, IsUnmarked part.toList) :
    IsUnmarked (commas parts).toList := by
  have comma : mark ∉ ", ".toList := by decide
  induction parts with
  | nil =>
    rw [commas, String.intercalate_nil]
    exact List.not_mem_nil
  | cons part parts ih =>
    obtain ⟨first, others⟩ := List.forall_mem_cons.mp each
    cases parts with
    | nil =>
      rw [commas, String.intercalate_singleton]
      exact first
    | cons next parts =>
      rw [commas, String.intercalate_cons_cons, String.toList_append, String.toList_append]
      exact unmarked_append.mpr ⟨unmarked_append.mpr ⟨first, comma⟩, ih others⟩

theorem unmarked_between {before middle after : String} (first : mark ∉ before.toList)
    (second : IsUnmarked middle.toList) (third : mark ∉ after.toList) :
    IsUnmarked (before ++ middle ++ after).toList := by
  rw [String.toList_append, String.toList_append]
  exact unmarked_append.mpr ⟨unmarked_append.mpr ⟨first, second⟩, third⟩

mutual

theorem unmarked_shown (a : Value) : IsUnmarked a.shown.toList := by
  cases a with
  | null =>
    have word : mark ∉ "None".toList := by decide
    exact word
  | bool value =>
    have yes : mark ∉ "True".toList := by decide
    have no : mark ∉ "False".toList := by decide
    cases value
    · exact no
    · exact yes
  | int value => exact unmarked_int value
  | real value => exact unmarked_real value
  | text content => exact unmarked_quoted content
  | list items =>
    exact unmarked_between (by decide) (unmarked_commas (unmarked_shownItems items)) (by decide)
  | tuple items =>
    have each := unmarked_shownItems items
    rcases items with _ | ⟨item, _ | ⟨next, items⟩⟩
    · exact unmarked_between (by decide) (unmarked_commas each) (by decide)
    · exact unmarked_between (by decide) (each _ (.head _)) (by decide)
    · exact unmarked_between (by decide) (unmarked_commas each) (by decide)
  | object fields =>
    exact unmarked_between (by decide) (unmarked_commas (unmarked_shownFields fields)) (by decide)
  | view entries =>
    exact unmarked_between (by decide) (unmarked_commas (unmarked_shownEntries entries)) (by decide)
termination_by structural a

theorem unmarked_shownItems (items : List Value) :
    ∀ part ∈ shownItems items, IsUnmarked part.toList := by
  cases items with
  | nil => nofun
  | cons item items =>
    exact List.forall_mem_cons.mpr ⟨unmarked_shown item, unmarked_shownItems items⟩
termination_by structural items

theorem unmarked_shownFields (fields : List (String × Value)) :
    ∀ part ∈ shownFields fields, IsUnmarked part.toList := by
  cases fields with
  | nil => nofun
  | cons field fields =>
    obtain ⟨name, entry⟩ := field
    have colon : mark ∉ ": ".toList := by decide
    have shown := unmarked_shown entry
    refine List.forall_mem_cons.mpr ⟨?_, unmarked_shownFields fields⟩
    rw [String.toList_append, String.toList_append]
    exact unmarked_append.mpr ⟨unmarked_append.mpr ⟨unmarked_quoted name, colon⟩, shown⟩
termination_by structural fields

theorem unmarked_shownEntries (entries : List (Value × Value)) :
    ∀ part ∈ shownEntries entries, IsUnmarked part.toList := by
  cases entries with
  | nil => nofun
  | cons entry entries =>
    obtain ⟨key, entry⟩ := entry
    have colon : mark ∉ ": ".toList := by decide
    have named := unmarked_shown key
    have shown := unmarked_shown entry
    refine List.forall_mem_cons.mpr ⟨?_, unmarked_shownEntries entries⟩
    rw [String.toList_append, String.toList_append]
    exact unmarked_append.mpr ⟨unmarked_append.mpr ⟨named, colon⟩, shown⟩
termination_by structural entries

end

theorem isPlain_asText {value : Value} (plain : value.isPlain = true) :
    Text.isPlain value.asText = true := by
  cases value with
  | text content => exact plain
  | _ => exact Text.isPlain_of_chars (unmarked_shown _)

end Value
end Gamebook
