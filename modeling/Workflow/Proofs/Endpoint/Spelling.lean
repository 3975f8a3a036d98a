import Mathlib.Data.List.Forall2
import Mathlib.Data.Nat.Digits.Defs
import Workflow.Endpoint.Host
import Workflow.Proofs.Text

/-!
# How addresses are spelled

An address of four bytes has many spellings: one to four numbers, each of them decimal, octal or
hexadecimal, of which the last one fills the bytes that are left. An address of sixteen bytes has
its groups, a run of which may be left out, and the last two of which may be written as an address
of four bytes. `IPv4.Spells` and `IPv6.Spells` say so without reading a text, and each spelling is
read as the address that it spells (`Host.address?_of_spells`, `Host.address?_of_spells₆`).
-/

namespace Workflow

open Workflow.Text

variable {α β : Type} {f : α → Option β} {xs : List α} {ys : List β}

theorem mapM_eq_some_of_forall₂ (h : List.Forall₂ (fun x y => f x = some y) xs ys) :
    xs.mapM f = some ys := by
  induction h with
  | nil => rfl
  | cons hx _ ih => simp [hx, ih]

theorem exists_of_forall₂ {R : α → β → Prop} (h : List.Forall₂ R xs ys) {x : α} (hx : x ∈ xs) :
    ∃ y, R x y := by
  induction h with
  | nil => cases hx
  | cons hxy _ ih =>
    obtain rfl | hx := List.mem_cons.1 hx
    · exact ⟨_, hxy⟩
    · exact ih hx

theorem mapM_eq_none {x : α} (hx : x ∈ xs) (h : f x = none) : xs.mapM f = none := by
  induction xs with
  | nil => cases hx
  | cons y xs ih =>
    obtain rfl | hx := List.mem_cons.1 hx
    · simp [h]
    · cases hy : f y with
      | none => simp [hy]
      | some _ => simp [hy, ih hx]

/-! ## Numerals -/

/-- **The numerals of a base**: the digits are below the base, and the first counts most. -/
def Digits (base : Nat) (cs : List Char) (n : Nat) : Prop :=
  ∃ ds : List Nat, (∀ d ∈ ds, d < base) ∧ cs = ds.map hexDigit ∧ n = Nat.ofDigits base ds.reverse

variable {base n : Nat} {cs : List Char}

theorem hexValue?_hexDigit {d : Nat} (h : d < 16) : hexValue? (hexDigit d) = some d := by
  have hall : ∀ e ∈ List.range 16, hexValue? (hexDigit e) = some e := by decide
  exact hall d (List.mem_range.2 h)

/-- A numeral is read as its number. -/
theorem Digits.digits?_eq (h : Digits base cs n) (hbase : base ≤ 16) :
    IPv4.digits? base 0 cs = some n := by
  obtain ⟨ds, hds, rfl, rfl⟩ := h
  have hfold : ∀ m, IPv4.digits? base m (ds.map hexDigit)
      = some (ds.foldl (fun m d => base * m + d) m) := by
    induction ds with
    | nil => exact fun _ => rfl
    | cons d ds ih =>
      intro m
      have hd := hds d List.mem_cons_self
      rw [List.map_cons, IPv4.digits?, hexValue?_hexDigit (hd.trans_le hbase)]
      dsimp only
      rw [if_pos hd, ih fun e he => hds e (List.mem_cons_of_mem _ he)]
      rfl
  rw [hfold 0, Nat.ofDigits_eq_foldr, List.foldr_reverse]
  simp only [Nat.cast_id, Nat.add_comm]

/-- The characters of numerals. -/
theorem Digits.mem (h : Digits base cs n) {c : Char} (hc : c ∈ cs) :
    ∃ d < base, c = hexDigit d := by
  obtain ⟨ds, hds, rfl, -⟩ := h
  obtain ⟨d, hd, rfl⟩ := List.mem_map.1 hc
  exact ⟨d, hds d hd, rfl⟩

/-! ## Addresses of four bytes -/

namespace IPv4

/-- **A number in one of three bases**: decimal, octal after a zero, or hexadecimal after a zero
and the letter x. -/
inductive Numeral : List Char → Nat → Prop
  /-- A decimal number. -/
  | decimal {cs : List Char} {n : Nat} (h : Digits 10 cs n) (hne : cs ≠ [])
      (hzero : cs.head? ≠ some '0') : Numeral cs n
  /-- An octal number. -/
  | octal {cs : List Char} {n : Nat} (h : Digits 8 cs n) : Numeral ('0' :: cs) n
  /-- A hexadecimal number. -/
  | hexadecimal {cs : List Char} {n : Nat} (h : Digits 16 cs n) (hne : cs ≠ []) :
      Numeral ('0' :: 'x' :: cs) n

/-- **The address that one to four numbers make up**: all but the last are bytes, and the last one
fills the bytes that are left. -/
inductive Fills : List Nat → Nat → Prop
  /-- One number. -/
  | one {a : Nat} (ha : a < 2 ^ 32) : Fills [a] a
  /-- A byte and a number. -/
  | two {a b : Nat} (ha : a < 256) (hb : b < 2 ^ 24) : Fills [a, b] (a * 2 ^ 24 + b)
  /-- Two bytes and a number. -/
  | three {a b c : Nat} (ha : a < 256) (hb : b < 256) (hc : c < 2 ^ 16) :
      Fills [a, b, c] (a * 2 ^ 24 + b * 2 ^ 16 + c)
  /-- Four bytes. -/
  | four {a b c d : Nat} (ha : a < 256) (hb : b < 256) (hc : c < 256) (hd : d < 256) :
      Fills [a, b, c, d] (a * 2 ^ 24 + b * 2 ^ 16 + c * 2 ^ 8 + d)

/-- **The spellings of an address** of four bytes. -/
def Spells (cs : List Char) (n : Nat) : Prop :=
  ∃ parts numbers, List.Forall₂ Numeral parts numbers ∧ Fills numbers n ∧
    cs = List.intercalate ['.'] parts

theorem Numeral.number?_eq (h : Numeral cs n) : number? cs = some n := by
  cases h with
  | decimal h hne hzero =>
    obtain ⟨c, cs, rfl⟩ := List.exists_cons_of_ne_nil hne
    unfold number?
    split
    · cases ‹_ :: _ = []›
    all_goals first
      | exact h.digits?_eq (by decide)
      | (next he => exact absurd (by rw [(List.cons_eq_cons.1 he).1]; rfl) hzero)
  | octal h =>
    rw [← h.digits?_eq (by decide)]
    obtain ⟨_ | ⟨d, ds⟩, hds, rfl, -⟩ := h
    · rfl
    · have hx : ∀ e ∈ List.range 8, hexDigit e ≠ 'x' ∧ hexDigit e ≠ 'X' := by decide
      obtain ⟨hlow, hhigh⟩ := hx d (List.mem_range.2 (hds d List.mem_cons_self))
      rw [List.map_cons]
      unfold number?
      split
      all_goals simp_all
  | hexadecimal h hne =>
    rw [← h.digits?_eq (by decide)]
    obtain ⟨c, cs, rfl⟩ := List.exists_cons_of_ne_nil hne
    rfl

theorem Numeral.mem {c : Char} (h : Numeral cs n) (hc : c ∈ cs) :
    Host.isNumericChar c = true ∧ c ≠ '.' := by
  have hdigit : ∀ {base : Nat} {cs : List Char} {n : Nat}, Digits base cs n → base ≤ 16 → c ∈ cs →
      Host.isNumericChar c = true ∧ c ≠ '.' := by
    intro base cs n h hbase hc
    obtain ⟨d, hd, rfl⟩ := h.mem hc
    have hall : ∀ e ∈ List.range 16,
        Host.isNumericChar (hexDigit e) = true ∧ hexDigit e ≠ '.' := by decide
    exact hall d (List.mem_range.2 (hd.trans_le hbase))
  cases h with
  | decimal h => exact hdigit h (by decide) hc
  | octal h =>
    obtain rfl | hc := List.mem_cons.1 hc
    · decide
    · exact hdigit h (by decide) hc
  | hexadecimal h =>
    obtain rfl | hc := List.mem_cons.1 hc
    · decide
    · obtain rfl | hc := List.mem_cons.1 hc
      · decide
      · exact hdigit h (by decide) hc

theorem Fills.ofParts?_eq {numbers : List Nat} (h : Fills numbers n) :
    ofParts? 4 numbers = some n := by
  cases h with
  | one ha => simp [ofParts?, show n < 4294967296 from ha]
  | two ha hb => simp [ofParts?, ha, show _ < 16777216 from hb]
  | three ha hb hc => simp [ofParts?, ha, hb, show _ < 65536 from hc, Nat.add_assoc]
  | four ha hb hc hd => simp [ofParts?, ha, hb, hc, hd, Nat.add_assoc]

theorem Spells.mem {c : Char} (h : Spells cs n) (hc : c ∈ cs) : Host.isNumericChar c = true := by
  obtain ⟨parts, numbers, hparts, -, rfl⟩ := h
  obtain hc | ⟨part, hpart, hc⟩ := mem_intercalate hc
  · rw [List.mem_singleton.1 hc]
    decide
  · obtain ⟨m, hm⟩ := exists_of_forall₂ hparts hpart
    exact (hm.mem hc).1

theorem Spells.ne_nil (h : Spells cs n) : cs ≠ [] := by
  obtain ⟨parts, numbers, hparts, hfills, rfl⟩ := h
  have hne : ∀ part ∈ parts, part ≠ [] := fun part hpart => by
    obtain ⟨m, hm⟩ := exists_of_forall₂ hparts hpart
    cases hm with
    | decimal _ hne => exact hne
    | octal | hexadecimal => exact List.cons_ne_nil _ _
  match parts, hparts with
  | [], .nil => cases hfills
  | [part], _ => simpa [List.intercalate] using hne part List.mem_cons_self
  | part :: next :: parts, _ => simp [List.intercalate_cons_cons]

/-- **Each spelling is read** as the address. -/
theorem Spells.loose?_eq (h : Spells cs n) : loose? cs = some n := by
  have hspace : cs.takeWhile (fun c => !isSpace c) = cs := by
    refine List.takeWhile_eq_self_iff.2 fun c hc => ?_
    have hchar : c ≠ ' ' ∧ 46 ≤ c.toNat := by
      have hnumeric := h.mem hc
      simp only [Host.isNumericChar, isAsciiDigit, Bool.or_eq_true, Bool.and_eq_true,
        decide_eq_true_eq, beq_iff_eq] at hnumeric
      obtain ((⟨hlow, -⟩ | ⟨hlow, -⟩) | rfl) | rfl := hnumeric
      · exact ⟨by rintro rfl; exact absurd hlow (by decide), (le_iff_toNat_le.1 hlow).trans' (by decide)⟩
      · exact ⟨by rintro rfl; exact absurd hlow (by decide), (le_iff_toNat_le.1 hlow).trans' (by decide)⟩
      · decide
      · decide
    simp [isSpace, hchar.1]
    omega
  obtain ⟨parts, numbers, hparts, hfills, rfl⟩ := h
  have hne : parts ≠ [] := by
    rintro rfl
    cases hparts
    cases hfills
  have hdot : ∀ part ∈ parts, '.' ∉ part := fun part hpart hmem =>
    have ⟨m, hm⟩ := exists_of_forall₂ hparts hpart
    (hm.mem hmem).2 rfl
  have hread : parts.mapM number? = some numbers :=
    mapM_eq_some_of_forall₂ (hparts.imp fun _ _ hm => hm.number?_eq)
  unfold loose?
  simp only [hspace, cutAt_intercalate hdot hne, hread]
  exact hfills.ofParts?_eq

/-- A spelling is looked at as one. -/
theorem Spells.isNumeric (h : Spells cs n) : Host.isNumeric cs = true := by
  have hlast : cs.getLast? ≠ some '\n' := fun hlast =>
    absurd (h.mem (List.mem_of_getLast? hlast)) (by decide)
  simp only [Host.isNumeric, if_neg hlast, Bool.and_eq_true, List.all_eq_true]
  exact ⟨by simpa using h.ne_nil, fun c hc => h.mem hc⟩

/-! ### The strict form -/

/-- A byte in strict form: decimal, without leading zeros. -/
def Byte (cs : List Char) (n : Nat) : Prop :=
  Digits 10 cs n ∧ cs ≠ [] ∧ n < 256 ∧ cs.length ≤ 3 ∧ (1 < cs.length → cs.head? ≠ some '0')

/-- **The strict form of an address** of four bytes. -/
def Dotted (cs : List Char) (n : Nat) : Prop :=
  ∃ parts a b c d, List.Forall₂ Byte parts [a, b, c, d] ∧ n = ofBytes a b c d ∧
    cs = List.intercalate ['.'] parts

theorem Byte.isAsciiDigit (h : Byte cs n) : ∀ c ∈ cs, isAsciiDigit c = true := by
  intro c hc
  obtain ⟨d, hd, rfl⟩ := h.1.mem hc
  have hall : ∀ e ∈ List.range 10, Text.isAsciiDigit (hexDigit e) = true := by decide
  exact hall d (List.mem_range.2 hd)

theorem Byte.byte?_eq (h : Byte cs n) : byte? cs = some n := by
  have hall : cs.all Text.isAsciiDigit = true := List.all_eq_true.2 h.isAsciiDigit
  obtain ⟨hdigits, hne, hn, hlength, hzero⟩ := h
  have hhead : (decide (1 < cs.length) && cs.head? == some '0') = false := by
    simpa using hzero
  simp [byte?, hlength, hall, hhead, hne, hdigits.digits?_eq, hn]

theorem Dotted.quad?_eq (h : Dotted cs n) : quad? cs = some n := by
  obtain ⟨parts, a, b, c, d, hparts, rfl, rfl⟩ := h
  have hne : parts ≠ [] := by
    rintro rfl
    cases hparts
  have hdot : ∀ part ∈ parts, '.' ∉ part := fun part hpart hmem =>
    have ⟨m, hm⟩ := exists_of_forall₂ hparts hpart
    absurd (hm.isAsciiDigit _ hmem) (by decide)
  have hread : parts.mapM byte? = some [a, b, c, d] :=
    mapM_eq_some_of_forall₂ (hparts.imp fun _ _ hm => hm.byte?_eq)
  unfold quad?
  rw [cutAt_intercalate hdot hne, hread]
  rfl

/-- What holds a colon is no strict form. -/
theorem quad?_eq_none (h : ':' ∈ cs) : quad? cs = none := by
  obtain ⟨part, hpart, hmem⟩ := exists_mem_cutAt h (show ':' ≠ '.' by decide)
  have hall : part.all Text.isAsciiDigit = false := by
    rw [← Bool.not_eq_true, List.all_eq_true]
    exact fun hall => absurd (hall _ hmem) (by decide)
  have hbyte : byte? part = none := by simp [byte?, hall]
  unfold quad?
  rw [mapM_eq_none hpart hbyte]
  rfl

end IPv4

/-! ## Addresses of sixteen bytes -/

namespace IPv6

/-- A group of one to four hexadecimal digits. -/
def Group (cs : List Char) (n : Nat) : Prop :=
  Digits 16 cs n ∧ cs ≠ [] ∧ cs.length ≤ 4

/-- **A row of groups**, the last two of which may be written as an address of four bytes. -/
inductive Row : List (List Char) → List Nat → Prop
  /-- All are written as groups. -/
  | groups {parts : List (List Char)} {ns : List Nat} (h : List.Forall₂ Group parts ns) :
      Row parts ns
  /-- The last two are written as an address of four bytes. -/
  | dotted {parts : List (List Char)} {ns : List Nat} {quad : List Char} {n : Nat}
      (h : List.Forall₂ Group parts ns) (hquad : IPv4.Dotted quad n) :
      Row (parts ++ [quad]) (ns ++ [n / 65536, n % 65536])

/-- **The spellings of an address** of sixteen bytes that has no zone. -/
inductive Writes : List Char → Nat → Prop
  /-- All eight groups are written. -/
  | full {parts : List (List Char)} {ns : List Nat} (h : Row parts ns) (hlength : ns.length = 8) :
      Writes (List.intercalate [':'] parts) (ofGroups ns)
  /-- Two colons stand for a run of zero groups. -/
  | gap {left right : List (List Char)} {high low : List Nat} (hleft : List.Forall₂ Group left high)
      (hright : Row right low) (hlength : high.length + low.length ≤ 7) :
      Writes (List.intercalate [':'] left ++ ':' :: ':' :: List.intercalate [':'] right)
        (ofGroups (high ++ List.replicate (8 - (high.length + low.length)) 0 ++ low))

/-- **The spellings of an address** of sixteen bytes. A percent sign and the name of a zone may
follow. -/
inductive Spells : List Char → Nat → Prop
  /-- There is no zone. -/
  | bare {cs : List Char} {n : Nat} (h : Writes cs n) : Spells cs n
  /-- There is a zone. -/
  | zoned {cs zone : List Char} {n : Nat} (h : Writes cs n) (hne : zone ≠ [])
      (hpercent : '%' ∉ zone) (hslash : '/' ∉ zone) : Spells (cs ++ '%' :: zone) n

variable {parts pre : List (List Char)} {ns ms : List Nat}

theorem Group.group?_eq (h : Group cs n) : group? cs = some n := by
  obtain ⟨hdigits, hne, hlength⟩ := h
  simp [group?, hne, Nat.not_lt.2 hlength, hdigits.digits?_eq]

theorem Group.not_mem {c : Char} (h : Group cs n) (hc : ∀ d < 16, hexDigit d ≠ c) : c ∉ cs := by
  intro hmem
  obtain ⟨d, hd, rfl⟩ := h.1.mem hmem
  exact hc d hd rfl

/-- A number of two bytes as a group. -/
theorem group_hexPadded (h : n < 65536) : Group (hexPadded 4 n) n := by
  refine ⟨⟨[n / 16 / 16 / 16 % 16, n / 16 / 16 % 16, n / 16 % 16, n % 16], ?_, rfl, ?_⟩,
    by simp [hexPadded], by simp [hexPadded]⟩
  · simp only [List.mem_cons, List.not_mem_nil, or_false, forall_eq_or_imp, forall_eq]
    omega
  · simp only [List.reverse_cons, List.reverse_nil, List.nil_append, List.cons_append,
      Nat.ofDigits_cons, Nat.ofDigits_nil]
    omega

theorem ofGroups_append (ns ms : List Nat) :
    ofGroups (ns ++ ms) = ofGroups ns * 65536 ^ ms.length + ofGroups ms := by
  have hfold : ∀ n, ms.foldl (fun n g => n * 65536 + g) n = n * 65536 ^ ms.length + ofGroups ms := by
    unfold ofGroups
    induction ms with
    | nil => simp
    | cons m ms ih =>
      intro n
      rw [List.foldl_cons, List.foldl_cons, ih, ih (0 * 65536 + m), List.length_cons, pow_succ]
      ring
  rw [ofGroups, List.foldl_append]
  exact hfold _

theorem ofGroups_replicate (k : Nat) : ofGroups (List.replicate k 0) = 0 := by
  induction k with
  | zero => rfl
  | succ k ih => exact ih

theorem Group.mem {c : Char} (h : Group cs n) (hc : c ∈ cs) : Host.isNumericChar c = true := by
  obtain ⟨d, hd, rfl⟩ := h.1.mem hc
  have hall : ∀ e ∈ List.range 16, Host.isNumericChar (hexDigit e) = true := by decide
  exact hall d (List.mem_range.2 hd)

theorem not_contains_of_forall₂ (h : List.Forall₂ Group parts ns) :
    ∀ part ∈ parts, ':' ∉ part ∧ '.' ∉ part ∧ part ≠ [] := by
  intro part hpart
  obtain ⟨n, hn⟩ := exists_of_forall₂ h hpart
  exact ⟨hn.not_mem (by decide), hn.not_mem (by decide), hn.2.1⟩

theorem mem_of_dotted (h : IPv4.Dotted cs n) : '.' ∈ cs ∧ ':' ∉ cs := by
  obtain ⟨parts, a, b, c, d, hparts, -, rfl⟩ := h
  have hcolon : ∀ part ∈ parts, ':' ∉ part := fun part hpart hmem =>
    have ⟨m, hm⟩ := exists_of_forall₂ hparts hpart
    absurd (hm.isAsciiDigit _ hmem) (by decide)
  refine ⟨?_, fun hmem => ?_⟩
  · match parts, hparts with
    | part :: next :: parts, _ => simp [List.intercalate_cons_cons]
  · obtain hmem | ⟨part, hpart, hmem⟩ := mem_intercalate hmem
    · exact absurd hmem (by decide)
    · exact hcolon part hpart hmem

theorem lt_of_dotted (h : IPv4.Dotted cs n) : n < 65536 * 65536 := by
  obtain ⟨parts, a, b, c, d, hparts, rfl, -⟩ := h
  match parts, hparts with
  | [_, _, _, _], .cons ha (.cons hb (.cons hc (.cons hd .nil))) =>
    have := ha.2.2.1
    have := hb.2.2.1
    have := hc.2.2.1
    have := hd.2.2.1
    simp only [IPv4.ofBytes]
    omega

/-- **The parts of a row** are widened to groups of the same numbers. -/
theorem Row.widen?_eq (h : Row parts ns) (hne : parts ≠ []) :
    ∃ groups, groups ≠ [] ∧ List.Forall₂ Group groups ns ∧
      ∀ pre, widen? (pre ++ parts) = some (pre ++ groups) := by
  cases h with
  | groups h =>
    refine ⟨parts, hne, h, fun pre => ?_⟩
    have hlast : (pre ++ parts).getLast? = some (parts.getLast hne) := by
      rw [List.getLast?_append_of_ne_nil _ hne, List.getLast?_eq_some_getLast hne]
    have hdot := (not_contains_of_forall₂ h _ (List.getLast_mem hne)).2.1
    simp [widen?, hlast, hdot]
  | @dotted parts ns quad n h hquad =>
    have hn := lt_of_dotted hquad
    refine ⟨parts ++ [hexPadded 4 (n / 65536), hexPadded 4 (n % 65536)], by simp,
      List.rel_append h (.cons (group_hexPadded (by omega))
        (.cons (group_hexPadded (by omega)) .nil)), fun pre => ?_⟩
    have hdot := (mem_of_dotted hquad).1
    have hlast : (pre ++ (parts ++ [quad])).getLast? = some quad := by
      rw [← List.append_assoc, List.getLast?_concat]
    have hinit : (pre ++ (parts ++ [quad])).dropLast = pre ++ parts := by
      rw [← List.append_assoc, List.dropLast_concat]
    simp [widen?, hlast, hdot, hquad.quad?_eq, hinit]

theorem Row.not_mem (h : Row parts ns) : ∀ part ∈ parts, ':' ∉ part := by
  cases h with
  | groups h => exact fun part hpart => (not_contains_of_forall₂ h part hpart).1
  | dotted h hquad =>
    intro part hpart
    obtain hpart | hpart := List.mem_append.1 hpart
    · exact (not_contains_of_forall₂ h part hpart).1
    · rw [List.mem_singleton.1 hpart]
      exact (mem_of_dotted hquad).2

/-- The parts of a row, with an empty part where there are none. -/
def orEmpty (parts : List (List Char)) : List (List Char) :=
  if parts = [] then [[]] else parts

theorem cutAt_intercalate_orEmpty (h : ∀ part ∈ parts, ':' ∉ part) :
    cutAt ':' (List.intercalate [':'] parts) = orEmpty parts := by
  unfold orEmpty
  split
  · next he => rw [he]; rfl
  · next hne => exact cutAt_intercalate h hne

theorem side_orEmpty (h : List.Forall₂ Group parts ns) : side (orEmpty parts) = parts := by
  unfold orEmpty
  split
  · next he => rw [he]; rfl
  · refine if_neg ?_
    rintro rfl
    exact (not_contains_of_forall₂ h [] List.mem_cons_self).2.2 rfl

theorem mapM_group? (h : List.Forall₂ Group parts ns) : parts.mapM group? = some ns :=
  mapM_eq_some_of_forall₂ (h.imp fun _ _ hn => hn.group?_eq)

/-- Eight groups are read as their number. -/
theorem ofPieces?_full (h : List.Forall₂ Group parts ns) (hlength : ns.length = 8) :
    ofPieces? parts = some (ofGroups ns) := by
  have hgap : gap? parts = none := by
    rw [gap?, Option.map_eq_none_iff, List.findIdx?_eq_none_iff]
    intro part hpart
    have hmem := List.mem_of_mem_drop (List.dropLast_subset _ hpart)
    simpa using (not_contains_of_forall₂ h part hmem).2.2
  simp [ofPieces?, hgap, mapM_group? h, hlength]

/-- Groups on both sides of a gap are read as their number. -/
theorem ofPieces?_gap {left right : List (List Char)} {high low : List Nat}
    (hleft : List.Forall₂ Group left high) (hright : List.Forall₂ Group right low)
    (hlength : high.length + low.length ≤ 7) :
    ofPieces? (orEmpty left ++ [] :: orEmpty right)
      = some (ofGroups (high ++ List.replicate (8 - (high.length + low.length)) 0 ++ low)) := by
  obtain ⟨first, rest, hfirst⟩ : ∃ first rest, orEmpty left = first :: rest := by
    unfold orEmpty
    split
    · exact ⟨_, _, rfl⟩
    · next hne => exact List.exists_cons_of_ne_nil hne
  have hrest : ∀ part ∈ rest, part ≠ [] := by
    intro part hpart
    unfold orEmpty at hfirst
    split at hfirst
    · cases hfirst
      cases hpart
    · exact (not_contains_of_forall₂ hleft part (hfirst ▸ List.mem_cons_of_mem _ hpart)).2.2
  have hne : orEmpty right ≠ [] := by
    unfold orEmpty
    split
    · exact List.cons_ne_nil _ _
    · assumption
  -- the gap is the first empty part in the middle
  have hgap : gap? (orEmpty left ++ [] :: orEmpty right) = some (orEmpty left).length := by
    have hmiddle : ((orEmpty left ++ [] :: orEmpty right).drop 1).dropLast
        = rest ++ [] :: (orEmpty right).dropLast := by
      rw [hfirst, List.cons_append, List.drop_succ_cons, List.drop_zero,
        List.dropLast_append_of_ne_nil (List.cons_ne_nil _ _), List.dropLast_cons_of_ne_nil hne]
    have hfind : (rest ++ [] :: (orEmpty right).dropLast).findIdx? List.isEmpty
        = some rest.length := by
      rw [List.findIdx?_append, List.findIdx?_eq_none_iff.2 fun part hpart => by
        simpa using hrest part hpart]
      simp [List.findIdx?_cons]
    rw [gap?, hmiddle, hfind, hfirst]
    rfl
  have htake : (orEmpty left ++ [] :: orEmpty right).take (orEmpty left).length = orEmpty left :=
    List.take_left' rfl
  have hdrop : (orEmpty left ++ [] :: orEmpty right).drop ((orEmpty left).length + 1)
      = orEmpty right := by
    rw [← List.drop_drop, List.drop_left' rfl]
    rfl
  have hvalue : ofGroups (high ++ List.replicate (8 - (high.length + low.length)) 0 ++ low)
      = ofGroups high * 65536 ^ (8 - high.length) + ofGroups low := by
    rw [ofGroups_append, ofGroups_append, ofGroups_replicate, List.length_replicate, Nat.add_zero,
      Nat.mul_assoc, ← pow_add, show 8 - (high.length + low.length) + low.length
        = 8 - high.length by omega]
  rw [ofPieces?, hgap, hvalue]
  simp [htake, hdrop, side_orEmpty hleft, side_orEmpty hright, mapM_group? hleft,
    mapM_group? hright, hlength]

/-! ### Spellings are read -/

theorem Row.eq_nil (h : Row [] ns) : ns = [] := by
  generalize he : ([] : List (List Char)) = parts at h
  cases h with
  | groups h =>
    subst he
    cases h
    rfl
  | dotted => simp at he

theorem Row.length_le (h : Row parts ns) : ns.length ≤ parts.length + 1 := by
  cases h with
  | groups h => simp [h.length_eq]
  | dotted h => simp [h.length_eq]

theorem Row.mem {c : Char} (h : Row parts ns) {part : List Char} (hpart : part ∈ parts)
    (hc : c ∈ part) : Host.isNumericChar c = true := by
  have hgroup : ∀ {parts : List (List Char)} {ns : List Nat}, List.Forall₂ Group parts ns →
      part ∈ parts → Host.isNumericChar c = true := fun h hpart =>
    have ⟨n, hn⟩ := exists_of_forall₂ h hpart
    hn.mem hc
  cases h with
  | groups h => exact hgroup h hpart
  | dotted h hquad =>
    obtain hpart | hpart := List.mem_append.1 hpart
    · exact hgroup h hpart
    · rw [List.mem_singleton.1 hpart] at hc
      obtain ⟨bytes, a, b, c', d, hbytes, -, rfl⟩ := hquad
      obtain hc | ⟨byte, hbyte, hc⟩ := mem_intercalate hc
      · rw [List.mem_singleton.1 hc]
        decide
      · obtain ⟨m, hm⟩ := exists_of_forall₂ hbytes hbyte
        simp [Host.isNumericChar, hm.isAsciiDigit c hc]

/-- The characters of an address without a zone. -/
theorem Writes.mem {c : Char} (h : Writes cs n) (hc : c ∈ cs) :
    c = ':' ∨ Host.isNumericChar c = true := by
  have hrow : ∀ {parts : List (List Char)} {ns : List Nat}, Row parts ns →
      c ∈ List.intercalate [':'] parts → c = ':' ∨ Host.isNumericChar c = true := by
    intro parts ns h hc
    obtain hc | ⟨part, hpart, hc⟩ := mem_intercalate hc
    · exact .inl (List.mem_singleton.1 hc)
    · exact .inr (h.mem hpart hc)
  cases h with
  | full h => exact hrow h hc
  | gap hleft hright =>
    obtain hc | hc := List.mem_append.1 hc
    · exact hrow (.groups hleft) hc
    · obtain rfl | hc := List.mem_cons.1 hc
      · exact .inl rfl
      · obtain rfl | hc := List.mem_cons.1 hc
        · exact .inl rfl
        · exact hrow hright hc

theorem Writes.not_mem {c : Char} (h : Writes cs n) (hcolon : c ≠ ':')
    (hc : Host.isNumericChar c = false) : c ∉ cs :=
  fun hmem => (h.mem hmem).elim hcolon fun hnumeric => by simp [hnumeric] at hc

/-- An address without a zone is cut into three parts at least, and these are read as its
number. -/
theorem Writes.ofPieces?_eq (h : Writes cs n) :
    3 ≤ (cutAt ':' cs).length ∧ (widen? (cutAt ':' cs)).bind ofPieces? = some n := by
  cases h with
  | @full parts ns h hlength =>
    have hle := h.length_le
    have hne : parts ≠ [] := by
      rintro rfl
      simp [hlength] at hle
    obtain ⟨groups, -, hgroups, hwiden⟩ := h.widen?_eq hne
    rw [cutAt_intercalate h.not_mem hne]
    refine ⟨by omega, ?_⟩
    rw [← List.nil_append parts, hwiden []]
    exact ofPieces?_full hgroups hlength
  | @gap left right high low hleft hright hlength =>
    have hcut : cutAt ':' (List.intercalate [':'] left ++ ':' :: ':' ::
        List.intercalate [':'] right) = orEmpty left ++ [] :: orEmpty right := by
      rw [cutAt_append, cutAt_intercalate_orEmpty (Row.groups hleft).not_mem,
        ← List.nil_append (':' :: _), cutAt_append, cutAt_intercalate_orEmpty hright.not_mem]
      rfl
    have hpos : ∀ parts : List (List Char), 1 ≤ (orEmpty parts).length := by
      intro parts
      unfold orEmpty
      split
      · exact Nat.le_refl _
      · next hne => exact List.length_pos_iff.2 hne
    rw [hcut]
    refine ⟨?_, ?_⟩
    · have := hpos left
      have := hpos right
      rw [List.length_append, List.length_cons]
      omega
    · by_cases hright' : right = []
      · subst hright'
        obtain rfl := hright.eq_nil
        have hwiden : widen? (orEmpty left ++ [] :: orEmpty [])
            = some (orEmpty left ++ [] :: orEmpty []) := by
          have hlast : (orEmpty left ++ [] :: orEmpty []).getLast? = some [] := by
            simp [orEmpty]
          simp [widen?, hlast]
        rw [hwiden]
        exact ofPieces?_gap hleft .nil hlength
      · obtain ⟨groups, hgroups, hall, hwiden⟩ := hright.widen?_eq hright'
        rw [show orEmpty right = right from if_neg hright', ← List.singleton_append,
          ← List.append_assoc, hwiden, List.append_assoc, List.singleton_append,
          ← show orEmpty groups = groups from if_neg hgroups]
        exact ofPieces?_gap hleft hall hlength

/-- **Each spelling is read** as the address. -/
theorem Spells.ofText?_eq (h : Spells cs n) : ofText? cs = some n := by
  have hread : ∀ {cs address : List Char}, '/' ∉ cs → withoutZone? cs = some address →
      Writes address n → ofText? cs = some n := by
    intro cs address hslash haddress h
    obtain ⟨hlength, hpieces⟩ := h.ofPieces?_eq
    unfold ofText?
    simp only [haddress]
    rw [if_neg (by simpa using hslash)]
    show (if (cutAt ':' address).length < 3 then none
      else (widen? (cutAt ':' address)).bind ofPieces?) = some n
    rw [if_neg (by omega), hpieces]
  cases h with
  | bare h =>
    refine hread (h.not_mem (by decide) (by decide)) ?_ h
    rw [withoutZone?, cutAt_of_not_mem (h.not_mem (by decide) (by decide))]
  | @zoned cs zone n h hne hpercent hslash =>
    refine hread ?_ ?_ h
    · rw [List.mem_append, List.mem_cons]
      rintro (hmem | hmem | hmem)
      · exact h.not_mem (by decide) (by decide) hmem
      · exact absurd hmem (by decide)
      · exact hslash hmem
    · rw [withoutZone?, cutAt_append_cons (h.not_mem (by decide) (by decide)),
        cutAt_of_not_mem hpercent]
      obtain ⟨c, zone, rfl⟩ := List.exists_cons_of_ne_nil hne
      rfl

theorem Writes.mem_colon (h : Writes cs n) : ':' ∈ cs := by
  by_contra hcolon
  have hlength := h.ofPieces?_eq.1
  rw [cutAt_of_not_mem hcolon] at hlength
  exact absurd hlength (by simp)

theorem Spells.mem_colon (h : Spells cs n) : ':' ∈ cs := by
  cases h with
  | bare h => exact h.mem_colon
  | zoned h => exact List.mem_append_left _ h.mem_colon

end IPv6

/-! ## All addresses -/

namespace Host

/-- **A spelling of an address of four bytes** is taken for it. -/
theorem address?_of_spells (h : IPv4.Spells cs n) : address? cs = some (.v4 n) := by
  rw [address?, if_pos h.isNumeric, h.loose?_eq]

/-- **A spelling of an address of sixteen bytes** is taken for it. -/
theorem address?_of_spells₆ (h : IPv6.Spells cs n) : address? cs = some (.v6 n) := by
  have hcolon := h.mem_colon
  have hnumeric : isNumeric cs = false := by
    have hbody : ':' ∈ if cs.getLast? = some '\n' then cs.dropLast else cs := by
      split
      · next hlast =>
        rw [← List.dropLast_append_getLast? _ hlast, List.mem_append] at hcolon
        exact hcolon.resolve_right (by decide)
      · exact hcolon
    rw [isNumeric, Bool.and_eq_false_iff, List.all_eq_false]
    exact .inr ⟨':', hbody, by decide⟩
  simp [address?, hnumeric, Address.ofText?, IPv4.quad?_eq_none hcolon, h.ofText?_eq]

end Host

end Workflow
