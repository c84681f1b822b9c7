import ApiGateway.Address.Reader
import ApiGateway.Proofs.Address.Written

/-!
# Reading addresses

An address before a text that cannot go on with it is read as it was written, for version 4 (`ipv4_chars`) and for
version 6 in each of its forms (`ipv6_chars`), so no two addresses are written alike (`IpAddress.chars_injective`).
Every reader gives back an end of the text that it was given (`suffix_of_ipv4`, `suffix_of_ipv6`).
-/

namespace ApiGateway.IpAddress

/-- A character is read exactly where it stands. -/
lemma expect_eq_some_iff {c : Char} {cs rest : List Char} : expect c cs = some ((), rest) ↔ cs = c :: rest := by
  cases cs with
  | nil => exact ⟨nofun, nofun⟩
  | cons d cs =>
    rw [expect, List.cons.injEq]
    split
    · simp [*]
    · simp [*]

/-- What is left after a character ends the text. -/
lemma suffix_of_expect {c : Char} {cs rest : List Char} (h : expect c cs = some ((), rest)) : rest <:+ cs := by
  rw [expect_eq_some_iff.mp h]
  exact List.suffix_cons c rest

/-! ### Numbers -/

/-- The text begins with no digit of the base. -/
def Stops (base : Nat) (rest : List Char) : Prop :=
  ∀ c ∈ rest.head?, Number.digitValue? base c = none

section

variable {base most limit n : Nat} {zeros : Bool} {ds cs rest : List Char}

/-- A run of digits stops before a character that is none. -/
lemma stops_cons {c : Char} (h : Number.digitValue? base c = none) : Stops base (c :: rest) := by
  intro d hd
  obtain rfl := Option.mem_some_iff.mp hd
  exact h

/-- Where a run of digits stops, one to a smaller base does. -/
lemma Stops.of_le {smaller : Nat} (h : Stops base rest) (hle : smaller ≤ base) : Stops smaller rest :=
  fun c hc => Number.digitValue?_eq_none_of_le hle (h c hc)

/-- Digits are read up to where they stop. -/
lemma spanBase_append (hds : ∀ c ∈ ds, (Number.digitValue? base c).isSome = true) (hrest : Stops base rest) :
    spanBase base (ds ++ rest) = (ds, rest) := by
  cases rest with
  | nil =>
    rw [List.append_nil]
    exact Text.span_of_all hds
  | cons c rest =>
    have hstop : (Number.digitValue? base c).isSome = false := by rw [hrest c rfl, Option.isSome_none]
    exact Text.span_append_cons hds hstop rest

/-- Nothing is read where digits stop at once. -/
lemma spanBase_of_stops (h : Stops base rest) : spanBase base rest = ([], rest) :=
  spanBase_append (List.forall_mem_nil _) h

/-- The digits and what is left make up the text. -/
lemma eq_append_of_spanBase (h : spanBase base cs = (ds, rest)) : cs = ds ++ rest := by
  rw [spanBase, List.span_eq_takeWhile_dropWhile] at h
  cases h
  exact List.takeWhile_append_dropWhile.symm

/-- A number is read exactly from a run of digits that is short enough, has no zero in front unless that may be, and
stays below its limit. -/
lemma number_eq_some_iff :
    number base most limit zeros cs = some (n, rest) ↔
      ∃ ds, spanBase base cs = (ds, rest) ∧ ds.length ≤ most ∧
        (zeros = false → ds.head? = some '0' → ds.length ≤ 1) ∧ Number.natOfDigits? base ds = some n ∧ n < limit := by
  cases hspan : spanBase base cs with | mk ds back
  simp only [number, hspan]
  constructor
  · intro h
    split at h
    · cases h
    rename_i hmost
    split at h
    · cases h
    rename_i hzeros
    obtain ⟨m, hm, h⟩ := Option.bind_eq_some_iff.mp h
    split at h
    · rename_i hlimit
      cases h
      refine ⟨ds, rfl, Nat.not_lt.mp hmost, fun hz hhead => ?_, hm, hlimit⟩
      simpa [hz, hhead] using hzeros
    · cases h
  · rintro ⟨_, heq, hmost, hzeros, hn, hlimit⟩
    cases heq
    rw [if_neg (Nat.not_lt.mpr hmost), hn, Option.bind_some, if_pos hlimit]
    apply if_neg
    simpa using hzeros

/-- A number that was written is read back, if it is small enough. -/
lemma number_toDigits (hbase : 1 < base) (hsixteen : base ≤ 16) (hmost : (Nat.toDigits base n).length ≤ most)
    (hlimit : n < limit) (hrest : Stops base rest) :
    number base most limit zeros (Nat.toDigits base n ++ rest) = some (n, rest) := by
  have hspan : spanBase base (Nat.toDigits base n ++ rest) = (Nat.toDigits base n, rest) :=
    spanBase_append (fun c hc => Number.digitValue?_of_mem_toDigits hbase hsixteen hc) hrest
  have hvalue := Number.natOfDigits?_toDigits hbase hsixteen n
  refine number_eq_some_iff.mpr ⟨_, hspan, hmost, fun _ hhead => ?_, hvalue, hlimit⟩
  -- a number that begins with zero is zero
  rw [Number.eq_zero_of_head?_toDigits hbase hsixteen hhead, Nat.toDigits_of_lt_base (by omega)]
  rfl

/-- There is no number without a digit. -/
lemma number_of_stops (h : Stops base rest) : number base most limit zeros rest = none := by
  rw [Option.eq_none_iff_forall_ne_some]
  rintro ⟨n, back⟩ hsome
  obtain ⟨ds, hds, -, -, hn, -⟩ := number_eq_some_iff.mp hsome
  rw [spanBase_of_stops h] at hds
  cases hds
  cases hn

/-- What is left after a number ends the text. -/
lemma suffix_of_number (h : number base most limit zeros cs = some (n, rest)) : rest <:+ cs := by
  obtain ⟨ds, hspan, -⟩ := number_eq_some_iff.mp h
  exact ⟨ds, (eq_append_of_spanBase hspan).symm⟩

end

/-! ### Octets -/

section

variable {cs rest : List Char}

/-- An octet is read back from its digits. -/
lemma octet_digits (o : UInt8) (h : Stops 10 rest) : octet (Number.digits o.toNat ++ rest) = some (o, rest) := by
  have hlength : (Nat.toDigits 10 o.toNat).length ≤ 3 :=
    (Nat.length_toDigits_le_iff (by decide) (by decide)).mpr (Nat.lt_trans o.toNat_lt (by decide))
  rw [octet, Number.digits, number_toDigits (by decide) (by decide) hlength o.toNat_lt h]
  exact congrArg (fun o => some (o, rest)) UInt8.ofNat_toNat

/-- An octet is read back from its digits after a point. -/
lemma pointOctet_digits (o : UInt8) (h : Stops 10 rest) :
    pointOctet ('.' :: (Number.digits o.toNat ++ rest)) = some (o, rest) := by
  rw [pointOctet, expect_eq_some_iff.mpr rfl]
  exact octet_digits o h

/-- A version 4 address that was written is read back. -/
lemma ipv4_chars (ip : Ipv4) (h : Stops 10 rest) : ipv4 (ip.chars ++ rest) = some (ip, rest) := by
  have hpoint (cs : List Char) : Stops 10 ('.' :: cs) := stops_cons (by decide)
  simp only [ipv4, Ipv4.chars, List.append_assoc, List.cons_append, octet_digits _ (hpoint _),
    pointOctet_digits _ (hpoint _), pointOctet_digits _ h, Option.bind_eq_bind, Option.bind_some]
  rfl

/-- An octet is a number of at most three digits below 256. -/
lemma exists_of_octet {o : UInt8} (h : octet cs = some (o, rest)) : ∃ n, number 10 3 256 false cs = some (n, rest) := by
  obtain ⟨⟨n, back⟩, hn, hrest⟩ := Option.map_eq_some_iff.mp h
  cases hrest
  exact ⟨n, hn⟩

/-- What is left after an octet ends the text. -/
lemma suffix_of_octet {o : UInt8} (h : octet cs = some (o, rest)) : rest <:+ cs := by
  obtain ⟨n, hn⟩ := exists_of_octet h
  exact suffix_of_number hn

/-- What is left after a point and an octet ends the text. -/
lemma suffix_of_pointOctet {o : UInt8} (h : pointOctet cs = some (o, rest)) : rest <:+ cs := by
  obtain ⟨⟨_, back⟩, hpoint, h⟩ := Option.bind_eq_some_iff.mp h
  exact (suffix_of_octet h).trans (suffix_of_expect hpoint)

/-- What is left after a version 4 address ends the text. -/
lemma suffix_of_ipv4 {ip : Ipv4} (h : ipv4 cs = some (ip, rest)) : rest <:+ cs := by
  obtain ⟨⟨a, cs₁⟩, ha, h⟩ := Option.bind_eq_some_iff.mp h
  obtain ⟨⟨b, cs₂⟩, hb, h⟩ := Option.bind_eq_some_iff.mp h
  obtain ⟨⟨c, cs₃⟩, hc, h⟩ := Option.bind_eq_some_iff.mp h
  obtain ⟨⟨d, cs₄⟩, hd, h⟩ := Option.bind_eq_some_iff.mp h
  cases h
  exact (suffix_of_pointOctet hd).trans ((suffix_of_pointOctet hc).trans
    ((suffix_of_pointOctet hb).trans (suffix_of_octet ha)))

/-- Without a point after the first digits there is no version 4 address. -/
lemma ipv4_of_no_point (h : (spanBase 10 cs).2.head? ≠ some '.') : ipv4 cs = none := by
  rw [Option.eq_none_iff_forall_ne_some]
  rintro ⟨ip, back⟩ hsome
  obtain ⟨⟨a, rest⟩, ha, hsome⟩ := Option.bind_eq_some_iff.mp hsome
  obtain ⟨⟨b, _⟩, hb, -⟩ := Option.bind_eq_some_iff.mp hsome
  obtain ⟨⟨_, after⟩, hpoint, -⟩ := Option.bind_eq_some_iff.mp hb
  obtain ⟨n, hn⟩ := exists_of_octet ha
  obtain ⟨ds, hspan, -⟩ := number_eq_some_iff.mp hn
  rw [hspan, expect_eq_some_iff.mp hpoint] at h
  exact h rfl

/-- There is no version 4 address without a digit. -/
lemma ipv4_of_stops (h : Stops 10 cs) : ipv4 cs = none := by
  rw [ipv4, octet, number_of_stops h]
  rfl

end

/-! ### Groups -/

/-- What stands before a group. -/
def lead (first : Bool) : List Char :=
  if first then [] else [':']

/-- A group ends before the text: it begins neither with a hexadecimal digit nor with a point. -/
structure Ends (rest : List Char) : Prop where
  digit : Stops 16 rest
  point : rest.head? ≠ some '.'

section

variable {ended : Bool} {room : Nat} {cs rest back : List Char}

/-- Before a group that is not the first a colon is read, and nothing else. -/
lemma separator_false_iff : separator false cs = some ((), rest) ↔ cs = ':' :: rest := by
  rw [separator, if_neg Bool.false_ne_true]
  exact expect_eq_some_iff

/-- What stands before a group is read as its separator. -/
lemma separator_lead (first : Bool) : separator first (lead first ++ cs) = some ((), cs) := by
  cases first with
  | true => rfl
  | false => exact separator_false_iff.mpr rfl

/-- Groups end before a colon. -/
lemma ends_colon (cs : List Char) : Ends (':' :: cs) :=
  ⟨stops_cons (by decide), fun h => absurd (Option.some.inj h) (by decide)⟩

/-- A group has no point, so it is not taken for the first octet of a version 4 address. -/
lemma ipv4_of_group (s : UInt16) (h : Ends rest) : ipv4 (Nat.toDigits 16 s.toNat ++ rest) = none := by
  apply ipv4_of_no_point
  rw [spanBase, List.span_eq_takeWhile_dropWhile, List.dropWhile_append]
  split
  · have hrest : spanBase 10 rest = ([], rest) := spanBase_of_stops (h.digit.of_le (by decide))
    rw [spanBase, List.span_eq_takeWhile_dropWhile] at hrest
    rw [congrArg Prod.snd hrest]
    exact h.point
  · rename_i hsome
    intro hhead
    rw [List.head?_append_of_ne_nil _ (by simpa using hsome)] at hhead
    have hmem : '.' ∈ Nat.toDigits 16 s.toNat := (List.dropWhile_suffix _).subset (List.mem_of_head? hhead)
    exact absurd (isAlphanum_of_mem_toDigits hmem) (by decide)

/-- A version 4 address at the end is read as two segments. -/
lemma groups_of_octets (first : Bool) (ip : Ipv4) (hroom : 0 < room) (h : Stops 10 rest) :
    groups first (room + 1) (lead first ++ (ip.chars ++ rest)) = ((ip.segments, true), rest) := by
  simp only [groups, if_pos hroom, separator_lead, Option.bind_some, ipv4_chars ip h]

/-- A segment is read back from its digits, and then the groups after it. -/
lemma groups_of_segment (first : Bool) (s : UInt16) {more : List UInt16} (hends : Ends rest)
    (h : groups false room rest = ((more, ended), back)) :
    groups first (room + 1) (lead first ++ (Nat.toDigits 16 s.toNat ++ rest)) = ((s :: more, ended), back) := by
  have hlength : (Nat.toDigits 16 s.toNat).length ≤ 4 :=
    (Nat.length_toDigits_le_iff (by decide) (by decide)).mpr s.toNat_lt
  have hnumber : number 16 4 65536 true (Nat.toDigits 16 s.toNat ++ rest) = some (s.toNat, rest) :=
    number_toDigits (by decide) (by decide) hlength s.toNat_lt hends.digit
  simp only [groups, separator_lead, Option.bind_some, ipv4_of_group s hends, ite_self, hnumber, h,
    UInt16.ofNat_toNat]

/-- No group is read where no digit follows the separator. -/
lemma groups_of_no_group {first : Bool} (h : ∀ cs, separator first rest = some ((), cs) → Stops 16 cs) :
    groups first room rest = (([], false), rest) := by
  cases room with
  | zero => rfl
  | succ room =>
    cases hseparator : separator first rest with
    | none => simp only [groups, hseparator, Option.bind_none, ite_self]
    | some taken =>
      have hstops : Stops 16 taken.2 := h taken.2 hseparator
      simp only [groups, hseparator, Option.bind_some, ipv4_of_stops (hstops.of_le (by decide)), ite_self,
        number_of_stops hstops]

/-- Segments that were written are read back where there is room for them. -/
lemma groups_segmentChars (first : Bool) {segments : List UInt16} (hne : segments ≠ []) (hroom : segments.length ≤ room)
    (hends : Ends rest) (hclosed : groups false (room - segments.length) rest = (([], false), rest)) :
    groups first room (lead first ++ (Ipv6.segmentChars segments ++ rest)) = ((segments, false), rest) := by
  -- each group after the first stands behind a colon, and what follows the last one must not look like another
  induction segments generalizing first room with
  | nil => exact absurd rfl hne
  | cons s segments ih =>
    cases room with
    | zero => exact absurd hroom (Nat.not_succ_le_zero _)
    | succ room =>
      rw [List.length_cons, Nat.add_sub_add_right] at hclosed
      by_cases hmore : segments = []
      · subst hmore
        exact groups_of_segment first s hends hclosed
      · have hlater : groups false room (':' :: (Ipv6.segmentChars segments ++ rest)) = ((segments, false), rest) :=
          ih false hmore (Nat.le_of_succ_le_succ hroom) hclosed
        rw [Ipv6.segmentChars_cons s hmore, List.append_assoc, List.cons_append]
        exact groups_of_segment first s (ends_colon _) hlater

/-- At the front of a text there may be no segments at all. -/
lemma groups_front (segments : List UInt16) (hroom : segments.length ≤ room) (hends : Ends rest)
    (hclosed : groups false (room - segments.length) rest = (([], false), rest)) :
    groups true room (Ipv6.segmentChars segments ++ rest) = ((segments, false), rest) := by
  by_cases hne : segments = []
  · subst hne
    refine groups_of_no_group fun cs hcs => ?_
    cases hcs
    exact hends.digit
  · exact groups_segmentChars true hne hroom hends hclosed

/-- What is left after a separator ends the text. -/
lemma suffix_of_separator {first : Bool} (h : separator first cs = some ((), rest)) : rest <:+ cs := by
  cases first with
  | true =>
    cases h
    exact List.suffix_rfl
  | false => exact suffix_of_expect (expect_eq_some_iff.mpr (separator_false_iff.mp h))

/-- What is left after groups ends the text. -/
lemma suffix_groups (first : Bool) (room : Nat) (cs : List Char) : (groups first room cs).2 <:+ cs := by
  induction room generalizing first cs with
  | zero => exact List.suffix_rfl
  | succ room ih =>
    rw [groups]
    split
    · rename_i ip rest hoctets
      split at hoctets
      · obtain ⟨⟨_, back⟩, hseparator, hip⟩ := Option.bind_eq_some_iff.mp hoctets
        exact (suffix_of_ipv4 hip).trans (suffix_of_separator hseparator)
      · cases hoctets
    · split
      · exact List.suffix_rfl
      · rename_i n rest hnumber
        obtain ⟨⟨_, back⟩, hseparator, hn⟩ := Option.bind_eq_some_iff.mp hnumber
        exact (ih false rest).trans ((suffix_of_number hn).trans (suffix_of_separator hseparator))

end

/-! ### Version 6 -/

/-- The text cannot go on with an address. -/
structure Apart (rest : List Char) : Prop extends Ends rest where
  colon : rest.head? ≠ some ':'

section

variable {ended : Bool} {cs rest back : List Char} {ip : Ipv6}

/-- No group is read where the text is set apart from groups. -/
lemma Apart.groups (h : Apart rest) (room : Nat) : groups false room rest = (([], false), rest) := by
  refine groups_of_no_group fun cs hcs => ?_
  rw [separator_false_iff.mp hcs] at h
  exact absurd rfl h.colon

/-- Two colons end the segments before them. -/
lemma groups_before_colons (segments : List UInt16) {room : Nat} (hroom : segments.length ≤ room) (cs : List Char) :
    groups true room (Ipv6.segmentChars segments ++ ':' :: ':' :: cs) = ((segments, false), ':' :: ':' :: cs) := by
  refine groups_front segments hroom (ends_colon _) (groups_of_no_group fun back hback => ?_)
  cases separator_false_iff.mp hback
  exact stops_cons (by decide)

/-- The segments of an address make up the address. -/
lemma ofSegments?_segments (ip : Ipv6) : ofSegments? ip.segments = some ip :=
  dif_pos ip.length_segments

/-- An address is read where all of its segments are. -/
lemma ipv6_of_segments (h : groups true 8 cs = ((ip.segments, ended), rest)) : ipv6 cs = some (ip, rest) := by
  simp only [ipv6, h, ip.length_segments, ofSegments?_segments, if_true, Option.map_some]

/-- Zeros fill the gap between the groups on both sides of two colons. -/
lemma ipv6_of_gap {head tail : List UInt16} (hhead : groups true 8 cs = ((head, false), ':' :: ':' :: back))
    (htail : groups true (7 - head.length) back = ((tail, ended), rest)) (hlength : head.length < 8)
    (hsegments : ip.segments = head ++ List.replicate (8 - head.length - tail.length) 0 ++ tail) :
    ipv6 cs = some (ip, rest) := by
  have hcolon (cs : List Char) : expect ':' (':' :: cs) = some ((), cs) := expect_eq_some_iff.mpr rfl
  simp only [ipv6, hhead, if_neg (Nat.ne_of_lt hlength), Bool.false_eq_true, if_false, hcolon, Option.bind_eq_bind,
    Option.bind_some, htail, ← hsegments, ofSegments?_segments]
  rfl

/-- A version 6 address that was written is read back. -/
lemma ipv6_chars (ip : Ipv6) (h : Apart rest) : ipv6 (ip.chars ++ rest) = some (ip, rest) := by
  rw [Ipv6.chars]
  cases hmapped : ip.mapped? with
  | some v4 =>
    have hoctets : groups false 6 (':' :: (v4.chars ++ rest)) = ((v4.segments, true), rest) :=
      groups_of_octets false v4 (by decide) (h.digit.of_le (by decide))
    -- before them stands one segment, behind two colons that nothing stands before
    have htail := groups_of_segment true 0xffff (ends_colon _) hoctets
    exact ipv6_of_gap (groups_before_colons [] (Nat.zero_le 8) _) htail (by decide) (Ipv6.segments_of_mapped? hmapped)
  | none =>
    obtain hplain | ⟨before, zeros, after, hlong, hsegments, hrun⟩ := Ipv6.compressed_cases ip.segments
    · have hroom : ip.segments.length ≤ 8 := Nat.le_of_eq ip.length_segments
      rw [hplain]
      exact ipv6_of_segments (groups_front _ hroom h.toEnds (h.groups _))
    · have hlength : before.length + zeros + after.length = 8 := by
        rw [← ip.length_segments, hsegments, List.length_append, List.length_append, List.length_replicate]
      have hgap : 8 - before.length - after.length = zeros := by omega
      have htail := groups_front after (by omega) h.toEnds (h.groups (7 - before.length - after.length))
      rw [hrun, List.append_assoc, List.cons_append, List.cons_append]
      exact ipv6_of_gap (groups_before_colons before (by omega) _) htail (by omega) (by rw [hgap, hsegments])

/-- What is left after a version 6 address ends the text. -/
lemma suffix_of_ipv6 (h : ipv6 cs = some (ip, rest)) : rest <:+ cs := by
  have hhead := suffix_groups true 8 cs
  unfold ipv6 at h
  simp only at h
  split at h
  · obtain ⟨_, -, heq⟩ := Option.map_eq_some_iff.mp h
    cases heq
    exact hhead
  · split at h
    · cases h
    · obtain ⟨⟨_, cs₁⟩, hfirst, h⟩ := Option.bind_eq_some_iff.mp h
      obtain ⟨⟨_, cs₂⟩, hsecond, h⟩ := Option.bind_eq_some_iff.mp h
      obtain ⟨_, -, heq⟩ := Option.bind_eq_some_iff.mp h
      cases heq
      have hcolons : cs₂ <:+ cs := (suffix_of_expect hsecond).trans ((suffix_of_expect hfirst).trans hhead)
      exact (suffix_groups true _ _).trans hcolons

end

/-! ### Texts of addresses -/

/-- Things that a reader takes back from their texts have different texts. -/
lemma injective_of_read {α : Type} {read : Reader α} {write : α → List Char}
    (h : ∀ a, read (write a ++ []) = some (a, [])) : Function.Injective write := by
  intro a b hsame
  have hread := h a
  rw [hsame, h b] at hread
  cases hread
  rfl

end ApiGateway.IpAddress

namespace ApiGateway

open IpAddress

/-- No two version 4 addresses are written alike. -/
lemma Ipv4.chars_injective : Function.Injective Ipv4.chars :=
  injective_of_read fun ip => ipv4_chars ip nofun

/-- No two version 6 addresses are written alike. -/
lemma Ipv6.chars_injective : Function.Injective Ipv6.chars := by
  have hend : Apart [] := ⟨⟨nofun, nofun⟩, nofun⟩
  exact injective_of_read fun ip => ipv6_chars ip hend

/-- No two addresses of different versions are written alike. -/
lemma chars_v4_ne_chars_v6 (ip : Ipv4) (jp : Ipv6) : ip.chars ≠ jp.chars := by
  intro h
  have hcolon := jp.colon_mem_chars
  rw [← h] at hcolon
  exact ip.colon_not_mem_chars hcolon

/-- No two addresses are written alike, whatever their versions are. -/
lemma IpAddress.chars_injective : Function.Injective IpAddress.chars := by
  intro a b h
  cases a with
  | v4 ip =>
    cases b with
    | v4 jp => exact congrArg IpAddress.v4 (Ipv4.chars_injective h)
    | v6 jp => exact absurd h (chars_v4_ne_chars_v6 ip jp)
  | v6 ip =>
    cases b with
    | v4 jp => exact absurd h.symm (chars_v4_ne_chars_v6 jp ip)
    | v6 jp => exact congrArg IpAddress.v6 (Ipv6.chars_injective h)

end ApiGateway
