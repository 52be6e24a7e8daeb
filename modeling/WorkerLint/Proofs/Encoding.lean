import WorkerLint.Proofs.PathSpelling

namespace WorkerLint

namespace Utf8

theorem scan_last (part : Partial) (b : UInt8) (rest : Bytes) (low : part.low ≤ b.toNat)
    (high : b.toNat ≤ part.high) (last : part.need ≤ 1) :
    scan (some part) (b :: rest) =
      some (Char.ofNat (part.code * 64 + (b.toNat - 0x80))) :: scan none rest := by
  simp [scan, low, high, last]

theorem scan_more (part : Partial) (b : UInt8) (rest : Bytes) (low : part.low ≤ b.toNat)
    (high : b.toNat ≤ part.high) (more : ¬ part.need ≤ 1) :
    scan (some part) (b :: rest) =
      scan (some ⟨part.code * 64 + (b.toNat - 0x80), part.need - 1, 0x80, 0xBF⟩) rest := by
  simp [scan, low, high, more]

theorem scan_begun (b : UInt8) (rest : Bytes) (part : Partial)
    (begun : lead b.toNat = .begun part) : scan none (b :: rest) = scan (some part) rest := by
  simp [scan, begun]

theorem toNat_later (n : Nat) : (UInt8.ofNat (n % 64 + 128)).toNat = n % 64 + 128 := by
  rw [UInt8.toNat_ofNat']
  omega

theorem lead_two (n : Nat) (low : 0x80 ≤ n) (high : n ≤ 0x7FF) :
    lead (UInt8.ofNat (n / 64 % 32 + 192)).toNat = .begun ⟨n / 64, 1, 0x80, 0xBF⟩ := by
  have value : (UInt8.ofNat (n / 64 % 32 + 192)).toNat = n / 64 + 192 := by
    rw [UInt8.toNat_ofNat']
    omega
  have above : ¬ n / 64 + 192 < 0x80 := by omega
  have proper : ¬ n / 64 + 192 < 0xC2 := by omega
  have below : n / 64 + 192 < 0xE0 := by omega
  rw [value, lead, if_neg above, if_neg proper, if_pos below, Nat.add_sub_cancel]

theorem lead_three (n : Nat) (high : n ≤ 0xFFFF) :
    lead (UInt8.ofNat (n / 4096 % 16 + 224)).toNat =
      .begun ⟨n / 4096, 2, if n / 4096 = 0 then 0xA0 else 0x80,
        if n / 4096 = 13 then 0x9F else 0xBF⟩ := by
  have value : (UInt8.ofNat (n / 4096 % 16 + 224)).toNat = n / 4096 + 224 := by
    rw [UInt8.toNat_ofNat']
    omega
  have above : ¬ n / 4096 + 224 < 0x80 := by omega
  have proper : ¬ n / 4096 + 224 < 0xC2 := by omega
  have wide : ¬ n / 4096 + 224 < 0xE0 := by omega
  have below : n / 4096 + 224 < 0xF0 := by omega
  have first : n / 4096 + 224 = 0xE0 ↔ n / 4096 = 0 := by omega
  have surrogate : n / 4096 + 224 = 0xED ↔ n / 4096 = 13 := by omega
  rw [value, lead, if_neg above, if_neg proper, if_neg wide, if_pos below, Nat.add_sub_cancel]
  simp only [first, surrogate]

theorem lead_four (n : Nat) (high : n < 0x110000) :
    lead (UInt8.ofNat (n / 262144 % 8 + 240)).toNat =
      .begun ⟨n / 262144, 3, if n / 262144 = 0 then 0x90 else 0x80,
        if n / 262144 = 4 then 0x8F else 0xBF⟩ := by
  have value : (UInt8.ofNat (n / 262144 % 8 + 240)).toNat = n / 262144 + 240 := by
    rw [UInt8.toNat_ofNat']
    omega
  have above : ¬ n / 262144 + 240 < 0x80 := by omega
  have proper : ¬ n / 262144 + 240 < 0xC2 := by omega
  have wide : ¬ n / 262144 + 240 < 0xE0 := by omega
  have wider : ¬ n / 262144 + 240 < 0xF0 := by omega
  have below : n / 262144 + 240 < 0xF5 := by omega
  have first : n / 262144 + 240 = 0xF0 ↔ n / 262144 = 0 := by omega
  have final : n / 262144 + 240 = 0xF4 ↔ n / 262144 = 4 := by omega
  rw [value, lead, if_neg above, if_neg proper, if_neg wide, if_neg wider, if_pos below,
    Nat.add_sub_cancel]
  simp only [first, final]

section

variable (n : Nat) (rest : Bytes)

theorem scan_two (more : ¬ n ≤ 0x7F) (two : n ≤ 0x7FF) :
    scan none (UInt8.ofNat (n / 64 % 32 + 192) :: UInt8.ofNat (n % 64 + 128) :: rest) =
      some (Char.ofNat n) :: scan none rest := by
  have last := toNat_later n
  have whole : n / 64 * 64 + (n % 64 + 128 - 0x80) = n := by omega
  rw [scan_begun _ _ _ (lead_two n (by omega) two),
    scan_last _ _ _ (by simp only; omega) (by simp only; omega) (by simp only; omega)]
  simp only [last, whole]

variable (valid : n < 0xD800 ∨ 0xDFFF < n ∧ n < 0x110000)

include valid

theorem scan_three (more : ¬ n ≤ 0x7FF) (three : n ≤ 0xFFFF) :
    scan none (UInt8.ofNat (n / 4096 % 16 + 224) :: UInt8.ofNat (n / 64 % 64 + 128) ::
      UInt8.ofNat (n % 64 + 128) :: rest) = some (Char.ofNat n) :: scan none rest := by
  have middle := toNat_later (n / 64)
  have last := toNat_later n
  have upper : n / 4096 * 64 + (n / 64 % 64 + 128 - 0x80) = n / 64 := by omega
  have whole : n / 64 * 64 + (n % 64 + 128 - 0x80) = n := by omega
  rw [scan_begun _ _ _ (lead_three n three),
    scan_more _ _ _ (by simp only; split <;> omega) (by simp only; split <;> omega)
      (by simp only; omega)]
  simp only [middle, upper]
  rw [scan_last _ _ _ (by simp only; omega) (by simp only; omega) (by simp only; omega)]
  simp only [last, whole]

theorem scan_four (more : ¬ n ≤ 0xFFFF) :
    scan none (UInt8.ofNat (n / 262144 % 8 + 240) :: UInt8.ofNat (n / 4096 % 64 + 128) ::
      UInt8.ofNat (n / 64 % 64 + 128) :: UInt8.ofNat (n % 64 + 128) :: rest) =
      some (Char.ofNat n) :: scan none rest := by
  have second := toNat_later (n / 4096)
  have third := toNat_later (n / 64)
  have last := toNat_later n
  have top : n / 262144 * 64 + (n / 4096 % 64 + 128 - 0x80) = n / 4096 := by omega
  have upper : n / 4096 * 64 + (n / 64 % 64 + 128 - 0x80) = n / 64 := by omega
  have whole : n / 64 * 64 + (n % 64 + 128 - 0x80) = n := by omega
  rw [scan_begun _ _ _ (lead_four n (by omega)),
    scan_more _ _ _ (by simp only; split <;> omega) (by simp only; split <;> omega)
      (by simp only; omega)]
  simp only [second, top]
  rw [scan_more _ _ _ (by simp only; omega) (by simp only; omega) (by simp only; omega)]
  simp only [third, upper]
  rw [scan_last _ _ _ (by simp only; omega) (by simp only; omega) (by simp only; omega)]
  simp only [last, whole]

end

/-- A character is read from its bytes, whatever stands behind them. -/
theorem scan_encodeChar (c : Char) (rest : Bytes) :
    scan none (String.utf8EncodeChar c ++ rest) = some c :: scan none rest := by
  obtain ⟨n, code⟩ : ∃ n, n = c.val.toNat := ⟨_, rfl⟩
  have valid : n < 0xD800 ∨ 0xDFFF < n ∧ n < 0x110000 := code ▸ c.valid
  have read : Char.ofNat n = c := by
    rw [code]
    exact Char.ofNat_toNat c
  simp only [String.utf8EncodeChar, ← code]
  split
  · rename_i one
    have value : (UInt8.ofNat n).toNat = n := by
      rw [UInt8.toNat_ofNat']
      omega
    simp [scan, lead, value, read, Nat.lt_succ_of_le one]
  · rename_i above
    split
    · rename_i two
      rw [← read]
      exact scan_two n rest above two
    · rename_i above
      split
      · rename_i three
        rw [← read]
        exact scan_three n rest valid above three
      · rename_i above
        rw [← read]
        exact scan_four n rest valid above

theorem scan_encode (text : Text) : scan none (encode text) = text.map some := by
  induction text with
  | nil => rfl
  | cons c rest ih => rw [encode, List.flatMap_cons, scan_encodeChar, ← encode, ih, List.map_cons]

theorem decodeLossy_encode (text : Text) : decodeLossy (encode text) = text := by
  simp [decodeLossy, scan_encode, Function.comp_def]

theorem separator_not_mem_encodeChar (c : Char) (other : c ≠ '/') :
    Path.separator ∉ String.utf8EncodeChar c := by
  obtain ⟨n, code⟩ : ∃ n, n = c.val.toNat := ⟨_, rfl⟩
  have apart : ∀ m, m ≠ 47 → m < 256 → Path.separator ≠ UInt8.ofNat m := by
    intro m differ small same
    have value := congrArg UInt8.toNat same
    rw [UInt8.toNat_ofNat', Nat.mod_eq_of_lt small] at value
    exact differ value.symm
  simp only [String.utf8EncodeChar, ← code]
  split
  · have differ : n ≠ 47 := by
      rintro rfl
      apply other
      rw [← Char.ofNat_toNat c]
      exact congrArg Char.ofNat code.symm
    simpa using apart n differ (by omega)
  -- The bytes of a longer character all lie above those of ASCII.
  · split
    · simp only [List.mem_cons, List.not_mem_nil, or_false, not_or]
      exact ⟨apart _ (by omega) (by omega), apart _ (by omega) (by omega)⟩
    · split
      · simp only [List.mem_cons, List.not_mem_nil, or_false, not_or]
        exact ⟨apart _ (by omega) (by omega), apart _ (by omega) (by omega),
          apart _ (by omega) (by omega)⟩
      · simp only [List.mem_cons, List.not_mem_nil, or_false, not_or]
        exact ⟨apart _ (by omega) (by omega), apart _ (by omega) (by omega),
          apart _ (by omega) (by omega), apart _ (by omega) (by omega)⟩

end Utf8

namespace Text

theorem pieces_encode (text : Text) :
    pieces Path.separator (Utf8.encode text) = (pieces '/' text).map Utf8.encode := by
  induction text with
  | nil => rfl
  | cons c rest ih =>
      by_cases slash : c = '/'
      · subst slash
        have byte : Utf8.encode ('/' :: rest) = Path.separator :: Utf8.encode rest := rfl
        rw [byte, pieces, pieces, if_pos rfl, if_pos rfl, List.map_cons, ih]
        rfl
      · obtain ⟨piece, more, cut⟩ := List.exists_cons_of_ne_nil (pieces_ne_nil '/' rest)
        rw [cut, List.map_cons] at ih
        rw [Utf8.encode, List.flatMap_cons, ← Utf8.encode,
          pieces_append_of_flat _ _ _ _ _ (Utf8.separator_not_mem_encodeChar c slash) ih, pieces,
          if_neg slash, cut]
        rfl

end Text

namespace Path

theorem spelling_mk (text : Text) : (mk text).spelling = text :=
  Utf8.decodeLossy_encode text

theorem eq_of_component?_name {piece : Bytes} {name : Name}
    (means : component? piece = some (.name name)) : name = piece := by
  rcases eq_of_component? means with up | named
  · cases up
  · exact Component.name.inj named

theorem eq_of_mem_leading {first : Bytes} {alone : Bool} {name : Name}
    (leads : .name name ∈ leading first alone) : name = first := by
  rw [leading] at leads
  split at leads
  · split at leads <;> simp at leads
  · split at leads
    · simp at leads
    · exact eq_of_component?_name (Option.mem_toList.mp leads)

theorem mem_pieces_of_mem_names (path : Path) (name : Name) (member : name ∈ path.names) :
    name ∈ path.pieces := by
  obtain ⟨component, among, named⟩ := List.mem_filterMap.mp member
  cases component with
  | root | here | up => cases named
  | name own =>
      cases named
      obtain ⟨first, rest, cut⟩ := path.exists_pieces
      rw [components_eq path first rest cut] at among
      rw [cut]
      rcases List.mem_append.mp among with leads | follows
      · rw [eq_of_mem_leading leads]
        exact List.mem_cons_self
      · obtain ⟨piece, present, means⟩ := List.mem_filterMap.mp follows
        rw [eq_of_component?_name means]
        exact List.mem_cons_of_mem first present

theorem names_of_text (text : Text) (name : Name) (member : name ∈ names ⟨text⟩) :
    ∃ shown, name = Utf8.encode shown := by
  have piece := mem_pieces_of_mem_names _ name member
  rw [pieces, Text.pieces_encode] at piece
  obtain ⟨shown, _, same⟩ := List.mem_map.mp piece
  exact ⟨shown, same.symm⟩

theorem shown_suffix_iff (wanted names : List Name)
    (texts : ∀ name ∈ wanted ++ names, ∃ text, name = Utf8.encode text) :
    wanted.map Utf8.decodeLossy <:+ names.map Utf8.decodeLossy ↔ wanted <:+ names := by
  have back : ∀ part, part ⊆ wanted ++ names →
      (part.map Utf8.decodeLossy).map Utf8.encode = part := by
    intro part among
    rw [List.map_map]
    calc
      part.map (Utf8.encode ∘ Utf8.decodeLossy) = part.map id := by
        apply List.map_congr_left
        intro name member
        obtain ⟨text, rfl⟩ := texts name (among member)
        exact congrArg Utf8.encode (Utf8.decodeLossy_encode text)
      _ = part := List.map_id part
  constructor
  · intro ends
    have encoded := ends.map Utf8.encode
    rwa [back wanted (List.subset_append_left _ _), back names (List.subset_append_right _ _)]
      at encoded
  · exact fun ends => ends.map Utf8.decodeLossy

end Path

end WorkerLint
