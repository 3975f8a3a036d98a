import Mathlib.Data.List.DropRight
import Workflow.Proofs.Endpoint.Spelling
import Workflow.Proofs.LiveTest

/-!
# Live tests stay outside

A live test that sends a request has passed the check of its address, and the check refuses names
and addresses in many spellings. What it lets through is said here without the check
(`Host.IsExternal`): the host has none of the names, and it spells no address of the ranges that
are reached from inside a network alone, neither as an address of four bytes nor as an address of
sixteen bytes that stands for one.

The check looks at the host without brackets around it, and brackets may be a part of the host: of
the name of a zone. Where the name of a zone is nothing but brackets and points it is lost with
them, and what is left is no address to the check. Such a host is let through
(`Host.HidesZone`).
-/

namespace Workflow

open Workflow.Text

/-! ## Lower case around brackets -/

namespace Host

/-- The brackets. -/
def IsBracket (c : Char) : Prop :=
  c = '[' ∨ c = ']'

variable {before cs bs : List Char}

theorem not_isBracket_of_mem (h : '[' ∉ cs ∧ ']' ∉ cs) {c : Char} (hc : c ∈ cs) :
    ¬ IsBracket c := by
  rintro (rfl | rfl)
  · exact h.1 hc
  · exact h.2 hc

theorem meetsCased_append (h : ∀ b ∈ bs, IsBracket b) :
    meetsCased (cs ++ bs) = meetsCased cs := by
  have hbracket : ∀ b, IsBracket b →
      markSpans.has b.toNat = false ∧ casedSpans.has b.toNat = false := by
    rintro b (rfl | rfl) <;> decide +kernel
  unfold meetsCased
  rw [List.find?_append]
  cases hcs : cs.find? fun c => !(markSpans.has c.toNat) with
  | some c => rfl
  | none =>
    cases bs with
    | nil => rfl
    | cons b bs =>
      obtain ⟨hmark, hcased⟩ := hbracket b (h b List.mem_cons_self)
      simp [hmark, hcased]

/-- Brackets have no case. -/
theorem lowerAfter_bracket {b : Char} (h : IsBracket b) (before cs : List Char) :
    lowerAfter before (b :: cs) = b :: lowerAfter (b :: before) cs := by
  refine lowerAfter_cons_self ?_
  obtain rfl | rfl := h <;> decide

/-- No letter is in another place in a word because brackets stand before the text. -/
theorem lowerAfter_append_seen (h : ∀ b ∈ bs, IsBracket b) (before cs : List Char) :
    lowerAfter (before ++ bs) cs = lowerAfter before cs := by
  induction cs generalizing before with
  | nil => rfl
  | cons c cs ih => rw [lowerAfter, lowerAfter, meetsCased_append h, ← List.cons_append, ih]

theorem lowerAfter_brackets_append (h : ∀ b ∈ bs, IsBracket b) (before cs : List Char) :
    lowerAfter before (bs ++ cs) = bs ++ lowerAfter (bs.reverse ++ before) cs := by
  induction bs generalizing before with
  | nil => rfl
  | cons b bs ih =>
    rw [List.cons_append, lowerAfter_bracket (h b List.mem_cons_self),
      ih fun b' hb' => h b' (List.mem_cons_of_mem _ hb')]
    simp

theorem lowerAfter_append_brackets (h : ∀ b ∈ bs, IsBracket b) (before cs : List Char) :
    lowerAfter before (cs ++ bs) = lowerAfter before cs ++ bs := by
  induction cs generalizing before with
  | nil => simpa [lowerAfter] using lowerAfter_brackets_append h before []
  | cons c cs ih =>
    rw [List.cons_append, lowerAfter, lowerAfter, meetsCased_append h, ih, List.append_assoc]

theorem lower_brackets (hbefore : ∀ b ∈ before, IsBracket b) (hbs : ∀ b ∈ bs, IsBracket b)
    (cs : List Char) : lower (before ++ cs ++ bs) = before ++ lower cs ++ bs := by
  have hseen : ∀ b ∈ before.reverse, IsBracket b := fun b hb =>
    hbefore b (List.mem_reverse.1 hb)
  rw [lower, lowerAfter_append_brackets hbs, lowerAfter_brackets_append hbefore, List.append_nil,
    ← List.nil_append before.reverse, lowerAfter_append_seen hseen]
  rfl

/-! ## The name that is looked at -/

/-- **A host in lower case**, without points after it. -/
def plain (host : List Char) : List Char :=
  (lower host).rdropWhile (· == '.')

/-- The name that the check looks at is the host but for brackets, and points in front of them. -/
theorem exists_normalized (host : List Char) :
    ∃ before after, plain host = before ++ normalized host ++ after ∧
      (∀ c ∈ before, IsBracket c) ∧ (∀ c ∈ after, IsBracket c ∨ c = '.') ∧
      ∀ hne : after ≠ [], IsBracket (after.getLast hne) := by
  obtain ⟨before, after, hhost, hbefore, hafter⟩ :=
    exists_stripped (fun c => c == '[' || c == ']') host
  have hbracket : ∀ {cs : List Char}, (∀ c ∈ cs, (c == '[' || c == ']') = true) →
      ∀ c ∈ cs, IsBracket c := fun h c hc => by simpa [IsBracket] using h c hc
  have hpoint : ∀ {c : Char}, IsBracket c → ¬ (c == '.') = true := by
    rintro c (rfl | rfl) <;> decide
  have hbefore := hbracket hbefore
  have hafter := hbracket hafter
  have hnormalized : normalized host
      = (lower (stripWhere (fun c => c == '[' || c == ']') host)).rdropWhile (· == '.') := rfl
  generalize stripWhere (fun c => c == '[' || c == ']') host = core at hhost hnormalized
  have hlower : lower host = before ++ normalized host
      ++ (lower core).rtakeWhile (· == '.') ++ after := by
    rw [hnormalized, hhost, lower_brackets hbefore hafter, List.append_assoc before _
      (List.rtakeWhile _ _), List.rdropWhile_append_rtakeWhile]
  have hpoints : ∀ c ∈ (lower core).rtakeWhile (· == '.'), c = '.' := fun c hc => by
    simpa using List.mem_rtakeWhile_imp hc
  have hself : ∀ {cs : List Char}, (∀ hne : cs ≠ [], ¬ (cs.getLast hne == '.') = true) →
      cs.rdropWhile (· == '.') = cs := fun h => by rwa [List.rdropWhile_eq_self_iff]
  by_cases hne : after = []
  · -- the points at the end are dropped, and no others
    refine ⟨before, [], ?_, hbefore, nofun, fun h => absurd rfl h⟩
    rw [plain, hlower, hne, List.append_nil, List.append_nil, List.rdropWhile,
      List.reverse_append, List.dropWhile_append_of_pos fun c hc => by
        simpa using hpoints c (List.mem_reverse.1 hc)]
    refine hself fun hne => ?_
    by_cases hempty : normalized host = []
    · simp only [hempty, List.append_nil] at hne ⊢
      exact hpoint (hbefore _ (List.getLast_mem hne))
    · rw [List.getLast_append_of_ne_nil _ hempty]
      rw [hnormalized] at hempty
      simp only [hnormalized]
      exact List.rdropWhile_last_not _ _ hempty
  · refine ⟨before, (lower core).rtakeWhile (· == '.') ++ after, ?_, hbefore, fun c hc => ?_,
      fun _ => ?_⟩
    · rw [plain, hlower, hself, List.append_assoc]
      intro _
      rw [List.getLast_append_of_ne_nil _ hne]
      exact hpoint (hafter _ (List.getLast_mem hne))
    · exact (List.mem_append.1 hc).elim (.inr ∘ hpoints c) (.inl ∘ hafter c)
    · rw [List.getLast_append_of_ne_nil _ hne]
      exact hafter _ (List.getLast_mem hne)

/-- A name without brackets is looked at as it is. -/
theorem normalized_eq_plain {host : List Char} (h : ∀ c ∈ plain host, ¬ IsBracket c) :
    normalized host = plain host := by
  obtain ⟨before, after, hplain, hbefore, -, hlast⟩ := exists_normalized host
  have hmem : ∀ c, c ∈ before ∨ c ∈ after → ¬ IsBracket c := fun c hc =>
    h c (by rw [hplain]; simp only [List.mem_append]; tauto)
  cases before with
  | cons b before => exact absurd (hbefore b List.mem_cons_self) (hmem b (.inl List.mem_cons_self))
  | nil =>
    by_cases hne : after = []
    · rw [hplain, hne, List.append_nil, List.nil_append]
    · exact absurd (hlast hne) (hmem _ (.inr (List.getLast_mem hne)))

end Host

/-! ## What is outside -/

/-- **The addresses that are reached from inside a network alone**: those of this machine, of its
network and of private ones, and those that are for groups of hosts or for nobody. -/
def IPv4.innerRanges : List Block := [
  ⟨ofBytes 0 0 0 0, 24⟩, ⟨ofBytes 10 0 0 0, 24⟩, ⟨ofBytes 127 0 0 0, 24⟩,
  ⟨ofBytes 169 254 0 0, 16⟩, ⟨ofBytes 172 16 0 0, 20⟩, ⟨ofBytes 192 168 0 0, 16⟩,
  ⟨ofBytes 224 0 0 0, 28⟩, ⟨ofBytes 240 0 0 0, 28⟩]

/-- Whether an address lies in none of these ranges. -/
def IPv4.IsOutside (n : Nat) : Prop :=
  ∀ b ∈ innerRanges, ¬ (b.base ≤ n ∧ n < b.base + 2 ^ b.bits)

theorem Block.has_of_le {b : Block} {n : Nat} (hb : 2 ^ b.bits ∣ b.base) (hlow : b.base ≤ n)
    (hhigh : n < b.base + 2 ^ b.bits) : b.has n = true := by
  obtain ⟨k, hk⟩ := hb
  have hpos : 0 < 2 ^ b.bits := Nat.two_pow_pos b.bits
  have hn : n / 2 ^ b.bits = k := by
    refine Nat.div_eq_of_lt_le ?_ ?_
    · rwa [Nat.mul_comm, ← hk]
    · rwa [Nat.succ_mul, Nat.mul_comm, ← hk]
  simp only [has, Nat.pow_eq, beq_iff_eq, hn, hk, Nat.mul_div_cancel_left k hpos]

/-- The check refuses all addresses in these ranges. -/
theorem IPv4.isOutside_of_isInternal {n : Nat} (h : isInternal n = false) : IsOutside n := by
  rintro b hb ⟨hlow, hhigh⟩
  have haligned : ∀ b ∈ innerRanges, 2 ^ b.bits ∣ b.base := by decide
  have hknown : ∀ b ∈ innerRanges, b ∈ privateBlocks ∨ b = multicast := by decide
  have hhas := Block.has_of_le (haligned b hb) hlow hhigh
  obtain ⟨hprivate, hmulticast⟩ := Bool.or_eq_false_iff.1 h
  obtain hb' | rfl := hknown b hb
  · -- no address of these ranges is excepted
    have hexcepted : publicExceptions.any (·.has n) = false := by
      rw [List.any_eq_false]
      intro e he hn
      have hsingle : ∀ e ∈ publicExceptions, e.bits = 0 ∧ ∀ b ∈ innerRanges,
          ¬ (b.base ≤ e.base ∧ e.base < b.base + 2 ^ b.bits) := by decide
      obtain ⟨hbits, hapart⟩ := hsingle e he
      have hne : n = e.base := by simpa [Block.has, hbits] using hn
      exact hapart b hb ⟨hne ▸ hlow, hne ▸ hhigh⟩
    rw [hexcepted, List.any_eq_true.2 ⟨b, hb', hhas⟩] at hprivate
    cases hprivate
  · rw [hhas] at hmulticast
    cases hmulticast

namespace Host

/-- Whether the name of a zone is nothing but brackets and points. -/
def HidesZone (name : List Char) : Prop :=
  ∃ address zone, name = address ++ '%' :: zone ∧ ∀ c ∈ zone, IsBracket c ∨ c = '.'

/-- **A host outside**, as far as its name tells: in lower case and without points after it, it is
none of the names that are refused, and has none of the ends of such names, and it is no spelling
of an address that is reached from inside a network alone. -/
structure IsExternal (host : List Char) : Prop where
  /-- It has none of the names. -/
  name : ∀ name ∈ blockedNames, plain host ≠ name.toList
  /-- It has none of the ends of names. -/
  suffix : ∀ suffix ∈ blockedSuffixes, ¬ suffix.toList <:+ plain host
  /-- It spells no address of four bytes inside. -/
  four : ∀ n, IPv4.Spells (plain host) n → IPv4.IsOutside n
  /-- It spells no address of sixteen bytes that stands for one inside. -/
  sixteen : ∀ n, IPv6.Spells (plain host) n → ¬ HidesZone (plain host) → n / 2 ^ 32 = 0xFFFF →
    IPv4.IsOutside (n % 2 ^ 32)

/-- An end of a name without brackets is looked at. -/
theorem suffix_normalized {host tail : List Char} (hne : tail ≠ [])
    (hall : ∀ c ∈ tail, ¬ IsBracket c) (h : tail <:+ plain host) : tail <:+ normalized host := by
  obtain ⟨before, after, hplain, hbefore, -, hlast⟩ := exists_normalized host
  obtain rfl : after = [] := by
    by_contra hafter
    obtain ⟨front, hfront⟩ := h
    have hends : tail.getLast hne = after.getLast hafter := by
      have hends := congrArg List.getLast? (hfront.trans hplain)
      rw [List.getLast?_append_of_ne_nil _ hne, List.getLast?_append_of_ne_nil _ hafter,
        List.getLast?_eq_some_getLast hne, List.getLast?_eq_some_getLast hafter] at hends
      exact Option.some.inj hends
    exact hall _ (List.getLast_mem hne) (hends ▸ hlast hafter)
  rw [hplain, List.append_nil] at h
  obtain ⟨front, hfront⟩ := h
  obtain ⟨more, hmore, htail⟩ | ⟨more, -, hrest⟩ := List.append_eq_append_iff.1 hfront
  · cases more with
    | nil => exact ⟨[], htail⟩
    | cons c more =>
      -- it would hold one of the brackets in front
      have hbracket : IsBracket c := hbefore c (by simp [hmore])
      exact absurd hbracket (hall c (by simp [htail]))
  · exact ⟨more, hrest.symm⟩

/-- Unless the name of a zone is hidden, what is looked at spells the same address. -/
theorem spells_normalized {host : List Char} {n : Nat} (h : IPv6.Spells (plain host) n)
    (hzone : ¬ HidesZone (plain host)) : IPv6.Spells (normalized host) n := by
  have hclean : ∀ {cs : List Char}, IPv6.Writes cs n → ∀ c ∈ cs, ¬ IsBracket c := by
    rintro cs h c hc (rfl | rfl) <;> exact h.not_mem (by decide) (by decide) hc
  generalize hname : plain host = name at h hzone
  cases h with
  | bare h =>
    rw [normalized_eq_plain fun c hc => hclean h c (hname ▸ hc), hname]
    exact .bare h
  | @zoned cs zone _ h hne hpercent hslash =>
    obtain ⟨before, after, hplain, hbefore, hafter, -⟩ := exists_normalized host
    rw [hname] at hplain
    have hpercent' : '%' ∉ after := fun hmem => by
      obtain (h | h) | h := hafter _ hmem <;> cases h
    obtain rfl : before = [] := by
      cases before with
      | nil => rfl
      | cons b before =>
        obtain ⟨c, cs, rfl⟩ := List.exists_cons_of_ne_nil (List.ne_nil_of_mem h.mem_colon)
        obtain rfl : c = b := (List.cons_eq_cons.1 hplain).1
        exact absurd (hbefore c List.mem_cons_self) (hclean h c List.mem_cons_self)
    obtain ⟨more, hnormalized, hmore⟩ | ⟨more, -, hmore⟩ := List.append_eq_append_iff.1 hplain
    · cases more with
      | nil =>
        rw [List.nil_append] at hmore
        exact absurd (hmore ▸ List.mem_cons_self) hpercent'
      | cons d more =>
        obtain ⟨rfl, rfl⟩ := List.cons_eq_cons.1 hmore
        rw [List.nil_append] at hnormalized
        rw [hnormalized]
        refine .zoned h ?_ (fun hmem => hpercent (List.mem_append_left _ hmem))
          fun hmem => hslash (List.mem_append_left _ hmem)
        rintro rfl
        exact hzone ⟨cs, after, rfl, hafter⟩
    · exact absurd (hmore ▸ List.mem_append_right _ List.mem_cons_self) hpercent'

/-- **What the check lets through is outside.** -/
theorem isExternal_of_isInternal {host : String} (h : isInternal host = false) :
    IsExternal host.toList := by
  obtain ⟨hname, haddress⟩ := Bool.or_eq_false_iff.1 h
  obtain ⟨hnames, hsuffixes⟩ := Bool.or_eq_false_iff.1 hname
  refine ⟨fun name hmem he => ?_, fun suffix hmem hsuffix => ?_, fun n hn => ?_,
    fun n hn hzone hmapped => ?_⟩
  · have hclean : ∀ name ∈ blockedNames, '[' ∉ name.toList ∧ ']' ∉ name.toList := by decide
    have hplain := normalized_eq_plain fun c hc =>
      not_isBracket_of_mem (hclean name hmem) (he ▸ hc)
    exact List.any_eq_false.1 hnames name hmem (by rw [hplain, he, beq_self_eq_true])
  · have hclean : ∀ suffix ∈ blockedSuffixes,
        suffix.toList ≠ [] ∧ '[' ∉ suffix.toList ∧ ']' ∉ suffix.toList := by decide
    obtain ⟨hne, hnone⟩ := hclean suffix hmem
    have hplain := suffix_normalized hne (fun c => not_isBracket_of_mem hnone) hsuffix
    exact List.any_eq_false.1 hsuffixes suffix hmem (List.isSuffixOf_iff_suffix.2 hplain)
  · have hplain := normalized_eq_plain fun c hc hbracket => by
      have hnumeric := hn.mem hc
      obtain rfl | rfl := hbracket <;> exact absurd hnumeric (by decide)
    rw [hplain, address?_of_spells hn] at haddress
    exact IPv4.isOutside_of_isInternal haddress
  · rw [address?_of_spells₆ (spells_normalized hn hzone)] at haddress
    have hinner : IPv6.isInternal n = IPv4.isInternal (n % 2 ^ 32) := by
      have hmapped' : IPv6.mapped? n = some (n % 2 ^ 32) := if_pos hmapped
      rw [IPv6.isInternal, hmapped']
    exact IPv4.isOutside_of_isInternal (hinner ▸ haddress)

/-- The name of a zone is lost with the brackets around a host. -/
example : isInternal "::ffff:127.0.0.1%eth0" = true ∧ isInternal "::ffff:127.0.0.1%[" = false := by
  decide +kernel

end Host

/-! ## Live tests -/

/-- A request to a host outside. -/
def Request.GoesOutside (r : Request) : Prop :=
  ∃ parts host, Url.split r.url = .ok parts ∧ parts.host? = some host ∧
    Host.IsExternal host.toList

namespace LiveTest

variable {o : Options} {parameters : Entries Json} {mocks : Json} {request : Request}

/-- **The request that a live test sends**, if it comes to sending one. -/
def sent? (o : Options) (parameters : Entries Json) (mocks : Json) : Option Request :=
  match prepare o parameters mocks with
  | .ok (_, _, request) => some request
  | .error _ => none

/-- **The endpoint is asked nothing else**: the test depends on the answer to that request
alone. -/
theorem run_congr {endpoint other : Request → Answer}
    (h : ∀ request ∈ sent? o parameters mocks, endpoint request = other request) :
    run o endpoint parameters mocks = run o other parameters mocks := by
  unfold run
  unfold sent? at h
  cases hprepare : prepare o parameters mocks with
  | error halt => rfl
  | ok prepared =>
    rw [hprepare] at h
    dsimp only
    rw [h prepared.2.2 rfl]

theorem draft_url {d : Draft} (h : draft o parameters mocks = .ok d) :
    ∃ raw, rawUrl parameters = .ok raw ∧ Template.resolveFrom raw mocks = .ok ⟨d.url, []⟩ := by
  unfold draft at h
  simp only [stage_bind_eq_ok] at h
  obtain ⟨method, -, raw, hraw, timeout, -, url, hurl, ⟨headers, unresolved⟩, -, h⟩ := h
  refine ⟨raw, hraw, ?_⟩
  dsimp only at h
  split at h
  · next hnone =>
    cases h
    cases hresolve : Template.resolveFrom raw mocks with
    | error f => rw [hresolve] at hurl; cases hurl
    | ok resolved =>
      rw [hresolve] at hurl
      cases hurl
      rw [← (List.append_eq_nil_iff.1 hnone).1]
  · cases h

/-- A request has the address of its draft. -/
theorem request_url {d : Draft} {target : Target} (h : d.request o = .ok (target, request)) :
    request.url = d.url := by
  have hbind : ∀ {α β : Type} {x : Except String α} {k : α → Except String β} {b : β},
      x >>= k = .ok b → ∃ a, k a = .ok b := by
    intro α β x k b h
    cases x with
    | ok a => exact ⟨a, h⟩
    | error e => cases h
  unfold Draft.request at h
  dsimp only at h
  split at h
  · cases h
  · obtain ⟨_, h⟩ := hbind h
    obtain ⟨own, h⟩ := hbind h
    split at h
    all_goals
      obtain ⟨host, h⟩ := hbind h
      cases h
      rfl

theorem checkAddress_ok {url : String} {u : Unit} (ho : o.allowInternal = false)
    (h : checkAddress o url = .ok u) :
    ∃ parts host, Url.split url = .ok parts ∧ parts.host? = some host ∧
      Host.isInternal host = false := by
  unfold checkAddress at h
  obtain ⟨parts, hparts, h⟩ := stage_bind_eq_ok.1 h
  have hsplit : Url.split url = .ok parts := by
    cases hsplit : Url.split url with
    | error e => rw [hsplit] at hparts; cases hparts
    | ok parts' => rw [hsplit] at hparts; cases hparts; rfl
  split at h
  · next host hhost =>
    split at h
    · cases h
    · split at h
      · cases h
      · next hinternal => exact ⟨parts, host, hsplit, hhost, by simpa [ho] using hinternal⟩
  · cases h

/-- **Live tests stay outside.** Where the check is not switched off, a live test sends a request
only to a host outside, and it is the host of the address with all templates resolved. Whatever
there is at other hosts makes no difference to the test. -/
theorem goesOutside_of_sent? (ho : o.allowInternal = false) (parameters : Entries Json)
    (mocks : Json) :
    (∀ request ∈ sent? o parameters mocks, request.GoesOutside ∧
      ∃ raw, rawUrl parameters = .ok raw ∧
        Template.resolveFrom raw mocks = .ok ⟨request.url, []⟩) ∧
    ∀ endpoint other : Request → Answer,
      (∀ request : Request, request.GoesOutside → endpoint request = other request) →
      run o endpoint parameters mocks = run o other parameters mocks := by
  have hsent : ∀ request ∈ sent? o parameters mocks, request.GoesOutside ∧
      ∃ raw, rawUrl parameters = .ok raw ∧
        Template.resolveFrom raw mocks = .ok ⟨request.url, []⟩ := by
    intro request hrequest
    unfold sent? at hrequest
    split at hrequest
    · next d target sent hprepare =>
      obtain rfl : sent = request := Option.some.inj hrequest
      unfold prepare at hprepare
      obtain ⟨d', hdraft, hprepare⟩ := stage_bind_eq_ok.1 hprepare
      obtain ⟨_, hcheck, hprepare⟩ := stage_bind_eq_ok.1 hprepare
      obtain ⟨raw, hraw, hresolve⟩ := draft_url hdraft
      obtain ⟨parts, host, hsplit, hhost, hinternal⟩ := checkAddress_ok ho hcheck
      split at hprepare
      · cases hprepare
      · next hbuilt =>
        cases hprepare
        rw [← request_url hbuilt] at hresolve hsplit
        exact ⟨⟨parts, host, hsplit, hhost, Host.isExternal_of_isInternal hinternal⟩, raw, hraw,
          hresolve⟩
    · cases hrequest
  exact ⟨hsent, fun endpoint other hsame =>
    run_congr fun request hrequest => hsame request (hsent request hrequest).1⟩

/-- The address of an API call whose host is a template. -/
def sampleHost : Entries Json := [("url", .str "http://\x7b\x7b host \x7d\x7d/a")]

/-- The test of an API call whose host is a template sends a request to one address, which is
outside, and none to another one. -/
theorem goesOutside_of_sent?_sampleHost :
    (sent? {} sampleHost (.obj [("host", .str "93.184.216.34")])).map Request.url
        = some "http://93.184.216.34/a" ∧
      sent? {} sampleHost (.obj [("host", .str "0X7f.0.1")]) = none ∧
      ∀ request ∈ sent? {} sampleHost (.obj [("host", .str "93.184.216.34")]),
        request.GoesOutside :=
  ⟨by decide +kernel, by decide +kernel, fun request hrequest =>
    ((goesOutside_of_sent? rfl sampleHost _).1 request hrequest).1⟩

end LiveTest

end Workflow
