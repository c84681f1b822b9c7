import ApiGateway.Address.Ip
import ApiGateway.Proofs.Number.Literal

/-!
# Addresses as they are written

An address is written with letters, digits, points and colons (`IpAddress.mem_chars`). Where the text of a version 6
address has two colons, a run of zero segments is left out of it and nothing else (`Ipv6.compressed_cases`).
-/

namespace ApiGateway

/-- A segment is written in letters and digits. -/
lemma isAlphanum_of_mem_toDigits {n : Nat} {c : Char} (h : c ∈ Nat.toDigits 16 n) : c.isAlphanum = true := by
  have hdigit : ∀ d < 16, (Nat.digitChar d).isAlphanum = true := by decide
  obtain ⟨d, hd, rfl⟩ := Number.exists_of_mem_toDigits (by decide) h
  exact hdigit d hd

/-- No colon is in the digits of a segment. -/
lemma count_colon_toDigits (n : Nat) : (Nat.toDigits 16 n).count ':' = 0 :=
  List.count_eq_zero.mpr fun h => absurd (isAlphanum_of_mem_toDigits h) (by decide)

/-- A version 4 address is written in digits and points. -/
lemma Ipv4.mem_chars {ip : Ipv4} : ∀ c ∈ ip.chars, c.isAlphanum = true ∨ c = '.' := by
  have hoctet (o : UInt8) : ∀ c ∈ Number.digits o.toNat, c.isAlphanum = true ∨ c = '.' :=
    fun c hc => .inl (Number.isAlphanum_of_mem_digits hc)
  simp only [Ipv4.chars, List.forall_mem_append, List.forall_mem_cons]
  exact ⟨⟨⟨hoctet ip.a, .inr trivial, hoctet ip.b⟩, .inr trivial, hoctet ip.c⟩, .inr trivial, hoctet ip.d⟩

/-- There is no colon in a version 4 address. -/
lemma Ipv4.colon_not_mem_chars (ip : Ipv4) : ':' ∉ ip.chars := by
  intro h
  obtain halnum | hpoint := Ipv4.mem_chars ':' h
  · exact absurd halnum (by decide)
  · cases hpoint

namespace Ipv6

/-! ### Segments -/

/-- A segment before others is written with a colon after it. -/
lemma segmentChars_cons (s : UInt16) {segments : List UInt16} (h : segments ≠ []) :
    segmentChars (s :: segments) = Nat.toDigits 16 s.toNat ++ ':' :: segmentChars segments := by
  cases segments with
  | nil => exact absurd rfl h
  | cons t segments => rfl

/-- Segments are written in letters, digits and colons. -/
lemma mem_segmentChars {segments : List UInt16} : ∀ c ∈ segmentChars segments, c.isAlphanum = true ∨ c = ':' := by
  fun_induction segmentChars segments with
  | case1 => nofun
  | case2 s => exact fun c hc => .inl (isAlphanum_of_mem_toDigits hc)
  | case3 s rest hrest ih =>
    intro c hc
    obtain hc | hc := List.mem_append.mp hc
    · exact .inl (isAlphanum_of_mem_toDigits hc)
    · obtain rfl | hc := List.mem_cons.mp hc
      · exact .inr rfl
      · exact ih c hc

/-- Segments are written with no more colons than there are segments. -/
lemma count_segmentChars_le (segments : List UInt16) : (segmentChars segments).count ':' ≤ segments.length := by
  fun_induction segmentChars segments with
  | case1 => exact Nat.zero_le _
  | case2 s => simp [count_colon_toDigits]
  | case3 s rest hrest ih =>
    rw [List.count_append, count_colon_toDigits, List.count_cons_self, List.length_cons]
    omega

/-! ### Runs of zeros -/

/-- Segments begin with as many zeros as are counted. -/
lemma exists_eq_leadingZeros_append (segments : List UInt16) :
    ∃ after, segments = List.replicate (leadingZeros segments) 0 ++ after := by
  induction segments with
  | nil => exact ⟨[], rfl⟩
  | cons s segments ih =>
    rw [leadingZeros]
    split
    · rename_i hs
      obtain ⟨after, hafter⟩ := ih
      exact ⟨after, by rw [List.replicate_succ, List.cons_append, ← hafter, hs]⟩
    · exact ⟨s :: segments, rfl⟩

/-- Where the longest run begins there are as many zeros as it is long. -/
lemma exists_eq_longestRun_append (i : Nat) (segments : List UInt16) :
    ∃ before after, segments = before ++ List.replicate (longestRun i segments).2 0 ++ after ∧
      (longestRun i segments).1 = i + before.length := by
  induction segments generalizing i with
  | nil => exact ⟨[], [], rfl, rfl⟩
  | cons s segments ih =>
    rw [longestRun]
    split
    · obtain ⟨after, hafter⟩ := exists_eq_leadingZeros_append (s :: segments)
      exact ⟨[], after, hafter, rfl⟩
    · obtain ⟨before, after, hsegments, hstart⟩ := ih (i + 1)
      refine ⟨s :: before, after, congrArg (s :: ·) hsegments, ?_⟩
      rw [hstart, List.length_cons]
      omega

/-- Either all segments are written, or two colons stand for two or more zeros between the others. -/
lemma compressed_cases (segments : List UInt16) :
    compressed segments = segmentChars segments ∨
      ∃ before zeros after, 1 < zeros ∧ segments = before ++ List.replicate zeros 0 ++ after ∧
        compressed segments = segmentChars before ++ ':' :: ':' :: segmentChars after := by
  obtain ⟨before, after, hsegments, hstart⟩ := exists_eq_longestRun_append 0 segments
  rw [Nat.zero_add] at hstart
  have htake : segments.take (longestRun 0 segments).1 = before := by
    rw [hstart, hsegments, List.append_assoc, List.take_left]
  have hdrop : segments.drop ((longestRun 0 segments).1 + (longestRun 0 segments).2) = after := by
    have hlength : (before ++ List.replicate (longestRun 0 segments).2 0).length =
        (longestRun 0 segments).1 + (longestRun 0 segments).2 := by
      rw [List.length_append, List.length_replicate, hstart]
    rw [← hlength]
    exact (congrArg _ hsegments).trans List.drop_left
  simp only [compressed, htake, hdrop]
  split
  · rename_i hlong
    exact .inr ⟨before, _, after, hlong, hsegments, rfl⟩
  · exact .inl rfl

/-- Compressed segments are written in letters, digits and colons. -/
lemma mem_compressed {segments : List UInt16} : ∀ c ∈ compressed segments, c.isAlphanum = true ∨ c = ':' := by
  obtain hplain | ⟨before, zeros, after, -, -, hrun⟩ := compressed_cases segments
  · rw [hplain]
    exact mem_segmentChars
  · rw [hrun]
    simp only [List.forall_mem_append, List.forall_mem_cons]
    exact ⟨mem_segmentChars, .inr trivial, .inr trivial, mem_segmentChars⟩

/-- There are no more colons than segments: two of them stand for two segments at least. -/
lemma count_compressed_le (segments : List UInt16) : (compressed segments).count ':' ≤ segments.length := by
  obtain hplain | ⟨before, zeros, after, hlong, hsegments, hrun⟩ := compressed_cases segments
  · rw [hplain]
    exact count_segmentChars_le segments
  · have hbefore := count_segmentChars_le before
    have hafter := count_segmentChars_le after
    rw [hrun, List.count_append, List.count_cons_self, List.count_cons_self, hsegments, List.length_append,
      List.length_append, List.length_replicate]
    omega

/-- There is a colon in compressed segments, if there are two or more. -/
lemma colon_mem_compressed {segments : List UInt16} (h : 1 < segments.length) : ':' ∈ compressed segments := by
  obtain hplain | ⟨before, zeros, after, -, -, hrun⟩ := compressed_cases segments
  · match segments with
    | s :: t :: segments =>
      rw [hplain, segmentChars_cons s (List.cons_ne_nil t segments)]
      exact List.mem_append_right _ List.mem_cons_self
  · rw [hrun]
    exact List.mem_append_right _ List.mem_cons_self

/-- There is a colon in every version 6 address. -/
lemma colon_mem_chars (ip : Ipv6) : ':' ∈ ip.chars := by
  rw [chars]
  split
  · exact List.mem_append_left _ (by decide)
  · exact colon_mem_compressed (by rw [ip.length_segments]; decide)

/-! ### Mapped addresses -/

/-- The octets of a mapped address fill its last two segments. -/
lemma segments_of_mapped? {ip : Ipv6} {v4 : Ipv4} (h : ip.mapped? = some v4) :
    ip.segments = List.replicate 5 0 ++ 0xffff :: v4.segments := by
  have hvalue (s t : UInt16) : (Ipv4.ofNat (s.toNat * 65536 + t.toNat)).segments = [s, t] := by
    have hs := s.toNat_lt
    have ht := t.toNat_lt
    simp only [Ipv4.segments, Ipv4.ofNat, List.cons.injEq, and_true, ← UInt16.toNat_inj, UInt16.toNat_add,
      UInt16.toNat_mul, UInt8.toNat_toUInt16, UInt8.toNat_ofNat', UInt16.reduceToNat, Nat.pow_eq, Nat.reducePow]
    omega
  rw [mapped?] at h
  split at h
  · rename_i s t hsegments
    rw [hsegments, ← Option.some.inj h, hvalue]
    rfl
  · cases h

end Ipv6

namespace IpAddress

/-- An address is written in letters, digits, points and colons. -/
lemma mem_chars {ip : IpAddress} : ∀ c ∈ ip.chars, c.isAlphanum = true ∨ c = '.' ∨ c = ':' := by
  have hv4 {ip : Ipv4} : ∀ c ∈ ip.chars, c.isAlphanum = true ∨ c = '.' ∨ c = ':' :=
    fun c hc => (Ipv4.mem_chars c hc).imp_right .inl
  cases ip with
  | v4 ip => exact hv4
  | v6 ip =>
    rw [chars, Ipv6.chars]
    split
    · have hlead : ∀ c ∈ "::ffff:".toList, c.isAlphanum = true ∨ c = '.' ∨ c = ':' := by simp
      exact List.forall_mem_append.mpr ⟨hlead, hv4⟩
    · exact fun c hc => (Ipv6.mem_compressed c hc).imp_right .inr

end IpAddress

end ApiGateway
