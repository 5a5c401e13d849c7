import Upkeep.Proofs.Json.Word

/-! Texts that are read as the trees they were written from. Reading is followed word by word:
what has been read of a value does not depend on what stands around it. -/
namespace Upkeep.Json

def readOn (r : Reading) (cs : List Char) : Option Reading :=
  (tokenize cs).bind fun ts => ts.foldlM Reading.step r

theorem readOn_nil (r : Reading) : readOn r [] = some r := by
  unfold readOn
  rw [tokenize]
  rfl

theorem tokenize_word {c : Char} {cs rest : List Char} {t : Token} (space : isSpace c = false)
    (first : word c cs = some (t, rest)) : tokenize (c :: cs) = (tokenize rest).map (t :: ·) := by
  rw [tokenize, if_neg (by simp [space])]
  split
  · next none => cases first.symm.trans none
  · next t' rest' some =>
    cases first.symm.trans some
    rfl

theorem readOn_word {c : Char} {cs rest : List Char} {t : Token} {r s : Reading}
    (space : isSpace c = false) (first : word c cs = some (t, rest)) (step : r.step t = some s) :
    readOn r (c :: cs) = readOn s rest := by
  unfold readOn
  rw [tokenize_word space first]
  cases tokenize rest with
  | none => rfl
  | some ts => simp only [Option.map_some, Option.bind_some, List.foldlM_cons, step, Option.bind_eq_bind]

/-- Whether a text does not begin with a blank or the end of an array. -/
def Begins (cs : List Char) : Prop := ∃ c ds, cs = c :: ds ∧ isSpace c = false ∧ c ≠ ']'

/-- A text of a value, read wherever a value may stand. -/
structure Legible (cs : List Char) (j : Json) : Prop where
  begins : Begins cs
  reads : ∀ outer rest, Closed rest → readOn (.value outer) (cs ++ rest) = readOn (.done j outer) rest

theorem legible_null : Legible "null".toList .null where
  begins := ⟨'n', _, rfl, rfl, by decide⟩
  reads outer rest _ := readOn_word (t := .scalar .null) rfl rfl rfl

theorem legible_bool (b : Bool) : Legible (chars (.bool b)) (.bool b) := by
  cases b with
  | true => exact ⟨⟨'t', _, rfl, rfl, by decide⟩, fun _ _ _ => readOn_word (t := .scalar (.bool true)) rfl rfl rfl⟩
  | false => exact ⟨⟨'f', _, rfl, rfl, by decide⟩, fun _ _ _ => readOn_word (t := .scalar (.bool false)) rfl rfl rfl⟩

theorem quote_append (s : String) (rest : List Char) :
    quote s ++ rest = '"' :: (s.toList.flatMap escape ++ '"' :: rest) := by
  simp [quote]

theorem legible_text (s : String) : Legible (quote s) (.str s) where
  begins := ⟨'"', _, rfl, rfl, by decide⟩
  reads outer rest _ := by
    rw [quote_append]
    exact readOn_word rfl (word_quote s rest) rfl

theorem isSpace_digit {c : Char} (digit : Decimal.isDigit c = true) : isSpace c = false := by
  simp only [isSpace, Bool.or_eq_false_iff, beq_eq_false_iff_ne]
  refine ⟨⟨⟨?_, ?_⟩, ?_⟩, ?_⟩ <;> rintro rfl <;> cases digit

theorem legible_digits (n : Nat) :
    Legible (Decimal.digits n) (numeral false (Decimal.digits n) [] none) where
  begins := by
    obtain ⟨c, cs, spelled, digit, -⟩ := word_digits n closed_nil
    refine ⟨c, cs, spelled, isSpace_digit digit, ?_⟩
    rintro rfl
    cases digit
  reads outer rest closed := by
    obtain ⟨c, cs, spelled, digit, first⟩ := word_digits n closed
    rw [spelled, List.cons_append]
    exact readOn_word (isSpace_digit digit) (spelled ▸ first) rfl

theorem word_closeArray {c : Char} {cs rest : List Char} (h : word c cs = some (.closeArray, rest)) :
    c = ']' := by
  unfold word at h
  split at h <;> simp_all

theorem readOn_firstItem {cs : List Char} (begins : Begins cs) (outer : List Frame) :
    readOn (.firstItem outer) cs = readOn (.value (.item [] :: outer)) cs := by
  obtain ⟨c, ds, rfl, space, unclosed⟩ := begins
  unfold readOn
  cases first : word c ds with
  | none =>
      have nothing : tokenize (c :: ds) = none := by
        rw [tokenize, if_neg (by simp [space])]
        split
        · rfl
        · next some => cases first.symm.trans some
      rw [nothing]
      rfl
  | some found =>
      obtain ⟨t, rest⟩ := found
      have step : Reading.step (.firstItem outer) t = Reading.step (.value (.item [] :: outer)) t := by
        cases t with
        | closeArray => exact absurd (word_closeArray first) unclosed
        | _ => rfl
      rw [tokenize_word space first]
      cases tokenize rest with
      | none => rfl
      | some ts => simp only [Option.map_some, Option.bind_some, List.foldlM_cons, step]

/-- Items up to the end of an array, after those that were read before. -/
theorem readOn_items (p : List Char × Json) (ps : List (List Char × Json))
    (each : ∀ x ∈ p :: ps, Legible x.1 x.2) (before : List Json) (outer : List Frame)
    (rest : List Char) :
    readOn (.value (.item before :: outer)) (between ',' ((p :: ps).map (·.1)) ++ ']' :: rest) =
      readOn (.done (.arr (before.reverse ++ (p :: ps).map (·.2))) outer) rest := by
  induction ps generalizing p before with
  | nil =>
      simp only [List.map_cons, List.map_nil, between]
      rw [(each p List.mem_cons_self).reads _ _ (closed_bracket rest)]
      refine readOn_word (t := .closeArray) rfl rfl ?_
      simp only [Reading.step, Reading.afterValue, List.reverse_cons]
  | cons q qs ih =>
      have first := (each p List.mem_cons_self).reads (.item before :: outer)
        (',' :: (between ',' ((q :: qs).map (·.1)) ++ ']' :: rest)) (closed_comma _)
      have later := ih q (fun x member => each x (List.mem_cons_of_mem p member)) (p.2 :: before)
      simp only [List.map_cons, between, List.append_assoc, List.cons_append] at first later ⊢
      rw [first, readOn_word (t := .comma) rfl rfl rfl, later]
      simp

theorem Begins.append {cs : List Char} (begins : Begins cs) (ds : List Char) : Begins (cs ++ ds) := by
  obtain ⟨c, es, rfl, space, unclosed⟩ := begins
  exact ⟨c, es ++ ds, rfl, space, unclosed⟩

theorem Begins.between {cs : List Char} (begins : Begins cs) (parts : List (List Char)) :
    Begins (between ',' (cs :: parts)) := by
  cases parts with
  | nil => exact begins
  | cons ds parts => exact begins.append _

theorem legible_arr (items : List (List Char × Json)) (each : ∀ x ∈ items, Legible x.1 x.2) :
    Legible ('[' :: between ',' (items.map (·.1)) ++ [']']) (.arr (items.map (·.2))) where
  begins := ⟨'[', _, rfl, rfl, by decide⟩
  reads outer rest _ := by
    simp only [List.cons_append, List.append_assoc, List.nil_append]
    refine (readOn_word (t := .openArray) rfl rfl rfl).trans ?_
    cases items with
    | nil => exact readOn_word (t := .closeArray) rfl rfl rfl
    | cons p ps =>
        have begins := (each p List.mem_cons_self).begins.between (ps.map (·.1))
        exact (readOn_firstItem (begins.append (']' :: rest)) outer).trans
          (readOn_items p ps each [] outer rest)

def fieldText (f : String × List Char × Json) : List Char := quote f.1 ++ ':' :: f.2.1

/-- Fields up to the end of an object, after those that were read before. -/
theorem readOn_fields (f : String × List Char × Json) (fs : List (String × List Char × Json))
    (each : ∀ x ∈ f :: fs, Legible x.2.1 x.2.2) (before : List (Option String × Json))
    (outer : List Frame) (rest : List Char) :
    readOn (.key before outer) (between ',' ((f :: fs).map fieldText) ++ '}' :: rest) =
      readOn (.done (objectOf (before.reverse ++ (f :: fs).map fun x => (some x.1, x.2.2))) outer) rest := by
  have field (g : String × List Char × Json) (legible : Legible g.2.1 g.2.2)
      (before : List (Option String × Json)) {rest : List Char} (closed : Closed rest) :
      readOn (.key before outer) (fieldText g ++ rest) =
        readOn (.done g.2.2 (.field before (some g.1) :: outer)) rest := by
    unfold fieldText
    rw [List.append_assoc, quote_append, readOn_word rfl (word_quote g.1 _) rfl]
    exact (readOn_word (t := .colon) rfl rfl rfl).trans (legible.reads _ _ closed)
  induction fs generalizing f before with
  | nil =>
      simp only [List.map_cons, List.map_nil, between]
      rw [field f (each f List.mem_cons_self) before (closed_brace rest)]
      refine readOn_word (t := .closeObject) rfl rfl ?_
      simp only [Reading.step, Reading.afterValue, List.reverse_cons]
  | cons g gs ih =>
      have first := field f (each f List.mem_cons_self) before
        (closed_comma (between ',' ((g :: gs).map fieldText) ++ '}' :: rest))
      have later := ih g (fun x member => each x (List.mem_cons_of_mem f member))
        ((some f.1, f.2.2) :: before)
      simp only [List.map_cons, between, List.append_assoc, List.cons_append] at first later ⊢
      rw [first, readOn_word (t := .comma) rfl rfl rfl, later]
      simp

theorem mapM_named {read : Option String × Json → Option (String × Json)}
    (named : ∀ k j, read (some k, j) = some (k, j)) (fields : List (String × List Char × Json)) :
    (fields.map fun f => (some f.1, f.2.2)).mapM read = some (fields.map fun f => (f.1, f.2.2)) := by
  induction fields with
  | nil => rfl
  | cons f fs ih =>
      simp only [List.map_cons, List.mapM_cons, named, ih, Option.bind_eq_bind, Option.bind_some,
        Option.pure_def]

theorem objectOf_some (fields : List (String × List Char × Json)) :
    objectOf (fields.map fun f => (some f.1, f.2.2)) = .obj (fields.map fun f => (f.1, f.2.2)) := by
  unfold objectOf
  rw [mapM_named fun _ _ => rfl]

theorem between_fields (f : String × List Char × Json) (fs : List (String × List Char × Json)) :
    ∃ tail, between ',' ((f :: fs).map fieldText) = quote f.1 ++ tail := by
  cases fs with
  | nil => exact ⟨_, rfl⟩
  | cons g gs => exact ⟨_, List.append_assoc _ _ _⟩

theorem legible_obj (fields : List (String × List Char × Json))
    (each : ∀ x ∈ fields, Legible x.2.1 x.2.2) :
    Legible ('{' :: between ',' (fields.map fieldText) ++ ['}']) (.obj (fields.map fun f => (f.1, f.2.2))) where
  begins := ⟨'{', _, rfl, rfl, by decide⟩
  reads outer rest _ := by
    simp only [List.cons_append, List.append_assoc, List.nil_append]
    refine (readOn_word (t := .openObject) rfl rfl rfl).trans ?_
    cases fields with
    | nil => exact readOn_word (t := .closeObject) rfl rfl rfl
    | cons f fs =>
        have all := readOn_fields f fs each [] outer rest
        rw [List.reverse_nil, List.nil_append, objectOf_some] at all
        refine Eq.trans ?_ all
        -- The first key is read in a state of its own, and then it does not matter any more.
        obtain ⟨tail, spelled⟩ := between_fields f fs
        rw [spelled, List.append_assoc, quote_append, readOn_word rfl (word_quote f.1 _) rfl,
          readOn_word rfl (word_quote f.1 _) rfl]

theorem chars_arr (items : List Json) :
    chars (.arr items) = '[' :: between ',' (items.map chars) ++ [']'] := by
  have parts : itemParts items = items.map chars := by
    induction items with
    | nil => rfl
    | cons j js ih => rw [itemParts, ih, List.map_cons]
  rw [chars, parts]

theorem chars_obj (fields : List (String × Json)) :
    chars (.obj fields) = '{' :: between ',' (fields.map fun f => quote f.1 ++ ':' :: f.2.chars) ++ ['}'] := by
  have parts : fieldParts fields = fields.map fun f => quote f.1 ++ ':' :: f.2.chars := by
    induction fields with
    | nil => rfl
    | cons f fs ih => rw [fieldParts, ih, List.map_cons, fieldChars]
  rw [chars, parts]

/-- A tree without fractions, exponents and signs, and with nothing garbled. -/
inductive Clean : Json → Prop
  | null : Clean .null
  | bool (b : Bool) : Clean (.bool b)
  | nat {n : Nat} (small : n < twoTo 64) : Clean (.int n)
  | str (s : String) : Clean (.str s)
  | arr {items : List Json} (each : ∀ j ∈ items, Clean j) : Clean (.arr items)
  | obj {fields : List (String × Json)} (each : ∀ f ∈ fields, Clean f.2) : Clean (.obj fields)

theorem chars_nat (n : Nat) : chars (.int n) = Decimal.digits n := by
  have positive : ¬ (n : Int) < 0 := Int.not_lt.2 (Int.natCast_nonneg n)
  simp only [chars, Decimal.integer, if_neg positive, Int.natAbs_natCast, Decimal.text,
    String.toList_ofList]

theorem Clean.legible {j : Json} (clean : Clean j) : Legible j.chars j := by
  induction clean with
  | null => exact legible_null
  | bool b => exact legible_bool b
  | @nat n small =>
      rw [chars_nat, ← numeral_digits small]
      exact legible_digits n
  | str s => exact legible_text s
  | @arr items each ih =>
      have legible := legible_arr (items.map fun j => (j.chars, j)) fun x member => by
        obtain ⟨j, there, rfl⟩ := List.mem_map.1 member
        exact ih j there
      rw [chars_arr]
      simpa [List.map_map, Function.comp_def] using legible
  | @obj fields each ih =>
      have legible := legible_obj (fields.map fun f => (f.1, f.2.chars, f.2)) fun x member => by
        obtain ⟨f, there, rfl⟩ := List.mem_map.1 member
        exact ih f there
      rw [chars_obj]
      simpa [List.map_map, Function.comp_def, fieldText] using legible

theorem read_write {j k : Json} (h : Legible j.chars k) : read j.write = some k := by
  unfold read write
  have reads := h.reads [] [] closed_nil
  rw [List.append_nil, readOn_nil] at reads
  unfold readOn at reads
  rw [String.toList_ofList]
  cases tokens : tokenize j.chars with
  | none => simp [tokens] at reads
  | some ts =>
      rw [tokens, Option.bind_some] at reads
      simp only [Option.bind_some, ofTokens, reads]

end Upkeep.Json
