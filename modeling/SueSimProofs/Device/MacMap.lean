/-
`generate_mac_device_mapping`, defined alike in `credit_analyzer.py` and `network_visualizer.py`,
and the two tables built from it at import, `MAC_TO_DEVICE_MAP` and its inverse
`DEVICE_TO_MAC_MAP`. The mapping assigns `mapping[mac] = name` device after device, so a MAC met
twice keeps only its last device. XPU devices get odd last bytes `16 x + 2 (d - 1) + 1`, switch
devices even ones in four interleaved segments. The hexadecimal text of a byte and the decimal
names tell any two devices apart, so a device is lost exactly when the byte formulas give two
devices one byte. For any number of units and devices per unit this happens exactly when there
are two XPUs of more than eight devices, or two switches of more than eight devices, or five
switches of more than two devices. Otherwise no assignment is overwritten: every device's MAC
names it, and the inverse table gives it back.
-/
import Mathlib.Data.List.Nodup
import Mathlib.Algebra.Order.Ring.Nat
import Mathlib.Algebra.BigOperators.Group.List

namespace SueSim.Device

/-- The last MAC byte of device `devId` (from 1) of XPU `xpuId` (from 0). -/
def xpuMacByte (xpuId devId : ℕ) : ℕ := xpuId * 0x10 + (devId - 1) * 2 + 1

/-- The last MAC byte of device `devId` (from 1) of switch `switchId` (from 0): two devices in each
of four even segments. -/
def switchMacByte (switchId devId : ℕ) : ℕ :=
  if devId ≤ 2 then switchId * 0x04 + devId * 2
  else if devId ≤ 4 then 0x10 + switchId * 0x04 + (devId - 2) * 2
  else if devId ≤ 6 then 0x20 + switchId * 0x04 + (devId - 4) * 2
  else 0x30 + switchId * 0x04 + (devId - 6) * 2

/-- `f"{n:02x}"`: lowercase hexadecimal, padded with zeros to two digits. -/
def hex02 (n : ℕ) : String :=
  ⟨List.replicate (2 - (Nat.toDigits 16 n).length) '0' ++ Nat.toDigits 16 n⟩

/-- `f"00:00:00:00:00:{mac_last_byte:02x}"`. -/
def macAddr (b : ℕ) : String := "00:00:00:00:00:" ++ hex02 b

/-- `f"XPU{xpu_id} Dev{dev_id}"`. -/
def xpuDeviceName (xpuId devId : ℕ) : String := "XPU" ++ toString xpuId ++ " Dev" ++ toString devId

/-- `f"Switch{switch_id + 1} Dev{dev_id}"`. -/
def switchDeviceName (switchId devId : ℕ) : String :=
  "Switch" ++ toString (switchId + 1) ++ " Dev" ++ toString devId

/-- `d[k] = v` on a dict kept as its items in insertion order: a present key keeps its place and
takes the new value. -/
def dictSet (d : List (String × String)) (k v : String) : List (String × String) :=
  if d.any fun p => p.1 == k then d.map fun p => if p.1 = k then (k, v) else p else d ++ [(k, v)]

/-- The dict that assigning the items one after another to an empty dict builds. -/
def dictOfItems (items : List (String × String)) : List (String × String) :=
  items.foldl (fun d p => dictSet d p.1 p.2) []

/-- The assignments `mapping[mac_addr] = device_name` of the two loops, in order. -/
def macAssignments (xpuCount devicesPerXpu devicesPerSwitch : ℕ) : List (String × String) :=
  (List.range xpuCount).flatMap (fun x => (List.range' 1 devicesPerXpu).map fun d =>
      (macAddr (xpuMacByte x d), xpuDeviceName x d)) ++
    (List.range xpuCount).flatMap fun s => (List.range' 1 devicesPerSwitch).map fun d =>
      (macAddr (switchMacByte s d), switchDeviceName s d)

/-- `generate_mac_device_mapping(xpu_count, devices_per_xpu, devices_per_switch)`. -/
def generateMacDeviceMapping (xpuCount devicesPerXpu devicesPerSwitch : ℕ) : List (String × String) :=
  dictOfItems (macAssignments xpuCount devicesPerXpu devicesPerSwitch)

/-- `{v: k for k, v in mapping.items()}`. -/
def invertMap (m : List (String × String)) : List (String × String) := dictOfItems (m.map Prod.swap)

/-- `MAC_TO_DEVICE_MAP`, built with the defaults. -/
def macToDeviceMap : List (String × String) := generateMacDeviceMapping 4 8 8

/-- `DEVICE_TO_MAC_MAP`. -/
def deviceToMacMap : List (String × String) := invertMap macToDeviceMap

/-- `MAC_TO_DEVICE_MAP.get(x, f"Unknown ({x})")`, the target device name of a credit record. -/
def targetDeviceName (mac : String) : String := (macToDeviceMap.lookup mac).getD ("Unknown (" ++ mac ++ ")")

/-! ## Digits -/

/-- One step of the digit loop behind `Nat.toDigits`. -/
theorem toDigitsCore_succ (b f n : ℕ) (ds : List Char) : Nat.toDigitsCore b (f + 1) n ds =
    if n / b = 0 then Nat.digitChar (n % b) :: ds
    else Nat.toDigitsCore b f (n / b) (Nat.digitChar (n % b) :: ds) := rfl

theorem toDigits_def (b n : ℕ) : Nat.toDigits b n = Nat.toDigitsCore b (n + 1) n [] := rfl

theorem data_toString (n : ℕ) : (toString n).data = Nat.toDigits 10 n := rfl

/-- The loop with an accumulator appends it to the digits the loop prints alone. -/
theorem toDigitsCore_append (b : ℕ) : ∀ f n ds, Nat.toDigitsCore b f n ds = Nat.toDigitsCore b f n [] ++ ds
  | 0, _, _ => rfl
  | f + 1, n, ds => by
    rw [toDigitsCore_succ, toDigitsCore_succ]
    split_ifs
    · rfl
    · rw [toDigitsCore_append b f _ (_ :: ds), toDigitsCore_append b f _ [_], List.append_assoc]
      rfl

/-- Fuel beyond the number itself does not change the digits. -/
theorem toDigitsCore_fuel {b : ℕ} (hb : 2 ≤ b) :
    ∀ f g n, n < f → n < g → Nat.toDigitsCore b f n [] = Nat.toDigitsCore b g n []
  | 0, _, _, h, _ => absurd h (Nat.not_lt_zero _)
  | _ + 1, 0, _, _, h => absurd h (Nat.not_lt_zero _)
  | f + 1, g + 1, n, hf, hg => by
    rw [toDigitsCore_succ, toDigitsCore_succ]
    split_ifs with h
    · rfl
    · have : n / b < n := Nat.div_lt_self (Nat.pos_of_ne_zero fun h0 => h (by simp [h0])) hb
      rw [toDigitsCore_append b f, toDigitsCore_append b g, toDigitsCore_fuel hb f g _ (by omega) (by omega)]

/-- `Nat.toDigits` prints the digits of `n / b`, when it is not zero, and then the last digit. -/
theorem toDigits_eq_append {b : ℕ} (hb : 2 ≤ b) (n : ℕ) : Nat.toDigits b n =
    (if n / b = 0 then [] else Nat.toDigits b (n / b)) ++ [Nat.digitChar (n % b)] := by
  rw [toDigits_def, toDigitsCore_succ]
  split_ifs with h
  · rfl
  · have : n / b < n := Nat.div_lt_self (Nat.pos_of_ne_zero fun h0 => h (by simp [h0])) hb
    rw [toDigitsCore_append, toDigitsCore_fuel hb n (n / b + 1) _ this (Nat.lt_succ_self _), ← toDigits_def]

theorem toDigits_ne_nil {b : ℕ} (hb : 2 ≤ b) (n : ℕ) : Nat.toDigits b n ≠ [] := by
  rw [toDigits_eq_append hb]; simp

theorem digitChar_toNat : ∀ a < 16, (Nat.digitChar a).toNat = if a < 10 then 48 + a else 87 + a := by
  decide

theorem digitChar_inj : ∀ a < 16, ∀ b < 16, Nat.digitChar a = Nat.digitChar b → a = b := by
  intro a ha b hb h
  have := congrArg Char.toNat h
  rw [digitChar_toNat a ha, digitChar_toNat b hb] at this
  split_ifs at this <;> omega

/-- Up to base 16 the printed digits determine the number. -/
theorem toDigits_injective {b : ℕ} (hb : 2 ≤ b) (hb16 : b ≤ 16) :
    ∀ {n m : ℕ}, Nat.toDigits b n = Nat.toDigits b m → n = m := by
  intro n
  induction n using Nat.strong_induction_on with
  | _ n ih =>
    intro m h
    rw [toDigits_eq_append hb n, toDigits_eq_append hb m] at h
    obtain ⟨hq, hr⟩ := List.append_inj' h rfl
    have hmod : n % b = m % b := digitChar_inj _ (by have := Nat.mod_lt n (by omega : 0 < b); omega) _
      (by have := Nat.mod_lt m (by omega : 0 < b); omega) (List.singleton_inj.1 hr)
    have hdiv : n / b = m / b := by
      split_ifs at hq with hn hm hm
      · rw [hn, hm]
      · exact absurd hq.symm (toDigits_ne_nil hb _)
      · exact absurd hq (toDigits_ne_nil hb _)
      · exact ih _ (Nat.div_lt_self (Nat.pos_of_ne_zero fun h0 => hn (by simp [h0])) hb) hq
    rw [← Nat.div_add_mod n b, ← Nat.div_add_mod m b, hdiv, hmod]

/-- Every printed digit is a digit below the base, so never a space. -/
theorem mem_toDigits {b : ℕ} (hb : 2 ≤ b) : ∀ {n : ℕ} {c : Char}, c ∈ Nat.toDigits b n →
    ∃ a < b, c = Nat.digitChar a := by
  intro n
  induction n using Nat.strong_induction_on with
  | _ n ih =>
    intro c hc
    rw [toDigits_eq_append hb] at hc
    rcases List.mem_append.1 hc with hc | hc
    · split_ifs at hc with hn
      · cases hc
      · exact ih _ (Nat.div_lt_self (Nat.pos_of_ne_zero fun h0 => hn (by simp [h0])) hb) hc
    · exact ⟨_, Nat.mod_lt _ (by omega), List.mem_singleton.1 hc⟩

theorem space_not_mem_toDigits (n : ℕ) : ' ' ∉ Nat.toDigits 10 n := fun h => by
  obtain ⟨a, ha, he⟩ := mem_toDigits (by decide) h
  have : ∀ a < 10, ' ' ≠ Nat.digitChar a := by decide
  exact this a ha he

/-! ## MAC text -/

/-- Two bytes with the same two-digit text are equal: below 16 the text is a `0` and one digit,
from 16 on it is the digits themselves, which never start with `0`. -/
theorem hex02_injective : Function.Injective hex02 := by
  have hlen : ∀ n, 16 ≤ n → 2 ≤ (Nat.toDigits 16 n).length := fun n hn => by
    rw [toDigits_eq_append (by decide), if_neg (by omega), List.length_append]
    have := List.length_pos.2 (toDigits_ne_nil (by decide : 2 ≤ 16) (n / 16))
    simp only [List.length_singleton]; omega
  have hsmall : ∀ n < 16, (hex02 n).data = ['0', Nat.digitChar n] := fun n hn => by
    rw [hex02, toDigits_eq_append (by decide), if_pos (Nat.div_eq_of_lt hn), Nat.mod_eq_of_lt hn]
    rfl
  have hlarge : ∀ n, 16 ≤ n → (hex02 n).data = Nat.toDigits 16 n := fun n hn => by
    show List.replicate (2 - (Nat.toDigits 16 n).length) '0' ++ Nat.toDigits 16 n = _
    rw [show 2 - (Nat.toDigits 16 n).length = 0 by have := hlen n hn; omega]; rfl
  -- a two-digit text of a byte from 16 on never starts with `0`
  have hmixed : ∀ n m, n < 16 → 16 ≤ m → (hex02 n).data ≠ (hex02 m).data := fun n m hn hm h => by
    rw [hsmall n hn, hlarge m hm, toDigits_eq_append (by decide), if_neg (by omega)] at h
    have h0 := (List.append_inj' (show ['0'] ++ [Nat.digitChar n] = _ from h) rfl).1
    have hm0 : m / 16 = 0 := toDigits_injective (by decide) le_rfl (h0.symm.trans rfl)
    omega
  intro n m h
  have hd := congrArg String.data h
  rcases lt_or_le n 16 with hn | hn <;> rcases lt_or_le m 16 with hm | hm
  · rw [hsmall n hn, hsmall m hm] at hd
    exact digitChar_inj _ hn _ hm (List.cons.inj (List.cons.inj hd).2).1
  · exact absurd hd (hmixed n m hn hm)
  · exact absurd hd.symm (hmixed m n hm hn)
  · rw [hlarge n hn, hlarge m hm] at hd
    exact toDigits_injective (by decide) le_rfl hd

/-- Two bytes with the same MAC address are equal. -/
theorem macAddr_inj {a b : ℕ} (h : macAddr a = macAddr b) : a = b :=
  hex02_injective (String.ext (List.append_cancel_left (congrArg String.data h)))

/-! ## Device names -/

/-- Two texts of digits followed by a space and more split at that space alike. -/
theorem append_space_inj : ∀ {l₁ l₂ r₁ r₂ : List Char}, ' ' ∉ l₁ → ' ' ∉ l₂ →
    l₁ ++ ' ' :: r₁ = l₂ ++ ' ' :: r₂ → l₁ = l₂ ∧ r₁ = r₂
  | [], [], _, _, _, _, h => ⟨rfl, List.cons.inj h |>.2⟩
  | [], c :: l₂, _, _, _, h₂, h => absurd ((List.cons.inj h).1 ▸ List.mem_cons_self _ _) h₂
  | c :: l₁, [], _, _, h₁, _, h => absurd ((List.cons.inj h).1 ▸ List.mem_cons_self _ _) h₁
  | c :: l₁, d :: l₂, _, _, h₁, h₂, h => by
    simp only [List.cons_append, List.cons.injEq] at h
    obtain ⟨rfl, h⟩ := h
    obtain ⟨rfl, hr⟩ := append_space_inj (fun hm => h₁ (List.mem_cons_of_mem _ hm))
      (fun hm => h₂ (List.mem_cons_of_mem _ hm)) h
    exact ⟨rfl, hr⟩

/-- `f"{prefix}{a} Dev{d}"` determines `a` and `d`. -/
theorem devName_inj {pre : String} {a a' d d' : ℕ}
    (h : pre ++ toString a ++ " Dev" ++ toString d = pre ++ toString a' ++ " Dev" ++ toString d') :
    a = a' ∧ d = d' := by
  have hd := congrArg String.data h
  simp only [String.data_append, data_toString, List.append_assoc] at hd
  obtain ⟨h1, h2⟩ := append_space_inj (space_not_mem_toDigits a) (space_not_mem_toDigits a')
    (List.append_cancel_left hd)
  exact ⟨toDigits_injective (by decide) (by decide) h1,
    toDigits_injective (by decide) (by decide) (List.append_cancel_left h2)⟩

theorem xpuDeviceName_inj {x x' d d' : ℕ} (h : xpuDeviceName x d = xpuDeviceName x' d') :
    x = x' ∧ d = d' :=
  devName_inj h

theorem switchDeviceName_inj {s s' d d' : ℕ} (h : switchDeviceName s d = switchDeviceName s' d') :
    s = s' ∧ d = d' := by
  obtain ⟨h1, h2⟩ := devName_inj h
  exact ⟨by omega, h2⟩

/-- An XPU name starts with `X`, a switch name with `S`. -/
theorem xpuDeviceName_ne_switchDeviceName (x d s d' : ℕ) : xpuDeviceName x d ≠ switchDeviceName s d' :=
  fun h => by
    have := congrArg (fun t : String => t.data.head?) h
    simp [xpuDeviceName, switchDeviceName] at this

/-! ## Bytes -/

section Bytes

variable {n x x' s s' d d' : ℕ}

/-- XPU devices get distinct bytes when there is one XPU or at most eight devices each, -/
theorem xpuMacByte_inj (hc : n ≤ 1 ∨ dx ≤ 8) (hx : x < n) (hx' : x' < n) (hd : 1 ≤ d ∧ d ≤ dx)
    (hd' : 1 ≤ d' ∧ d' ≤ dx) (h : xpuMacByte x d = xpuMacByte x' d') : x = x' ∧ d = d' := by
  unfold xpuMacByte at h; omega

/-- A switch byte is `16 k + 4 s + 2 r` for device `d = 2 k + r` in segment `k`; the offset `r` is
1 or 2 except in the last segment. -/
theorem switchMacByte_segment (s d : ℕ) (hd : 1 ≤ d) : ∃ k r, k ≤ 3 ∧ 1 ≤ r ∧ (k = 3 ∨ r ≤ 2) ∧
    d = 2 * k + r ∧ switchMacByte s d = 16 * k + 4 * s + 2 * r := by
  unfold switchMacByte
  split_ifs
  · exact ⟨0, d, by omega⟩
  · exact ⟨1, d - 2, by omega⟩
  · exact ⟨2, d - 4, by omega⟩
  · exact ⟨3, d - 6, by omega⟩

/-- and switch devices when there is one switch, or at most two devices each, or at most four
switches of at most eight devices: the four segments then interleave. -/
theorem switchMacByte_inj (hc : n ≤ 1 ∨ ds ≤ 2 ∨ n ≤ 4 ∧ ds ≤ 8) (hs : s < n) (hs' : s' < n)
    (hd : 1 ≤ d ∧ d ≤ ds) (hd' : 1 ≤ d' ∧ d' ≤ ds) (h : switchMacByte s d = switchMacByte s' d') :
    s = s' ∧ d = d' := by
  obtain ⟨k, r, hk, hr, hr2, rfl, he⟩ := switchMacByte_segment s d hd.1
  obtain ⟨k', r', hk', hr', hr2', rfl, he'⟩ := switchMacByte_segment s' d' hd'.1
  rw [he, he'] at h
  rcases hc with hn | hds | ⟨hn, hds⟩
  · -- one switch: the byte grows with the device
    obtain rfl : s = 0 := by omega
    obtain rfl : s' = 0 := by omega
    omega
  · omega
  · -- the offsets stay below the next segment, so the segment is the byte's sixteen
    obtain rfl : k = k' := by omega
    omega

/-- XPU bytes are odd, switch bytes even. -/
theorem xpuMacByte_ne_switchMacByte : xpuMacByte x d ≠ switchMacByte s d' := by
  unfold xpuMacByte switchMacByte; split_ifs <;> omega

end Bytes

/-! ## Dicts built by assignment -/

theorem dictSet_of_not_mem {d : List (String × String)} {k v : String} (h : k ∉ d.map Prod.fst) :
    dictSet d k v = d ++ [(k, v)] := by
  have : (d.any fun p => p.1 == k) = false := by
    simpa [List.any_eq_false] using fun a b hab hk => h (List.mem_map.2 ⟨(a, b), hab, hk⟩)
  simp [dictSet, this]

theorem foldl_dictSet_of_nodup : ∀ (items acc : List (String × String)),
    ((acc ++ items).map Prod.fst).Nodup → items.foldl (fun d p => dictSet d p.1 p.2) acc = acc ++ items
  | [], acc, _ => by simp
  | p :: items, acc, h => by
    have hp : p.1 ∉ acc.map Prod.fst := by
      simp only [List.map_append, List.map_cons, List.nodup_append, List.nodup_cons] at h
      exact fun hm => h.2.2 hm (List.mem_cons_self _ _)
    rw [List.foldl_cons, dictSet_of_not_mem hp, foldl_dictSet_of_nodup items _ (by simpa using h)]
    simp

/-- With no key assigned twice, the dict is the assignments themselves. -/
theorem dictOfItems_of_nodup {items : List (String × String)} (h : (items.map Prod.fst).Nodup) :
    dictOfItems items = items := by
  simpa using foldl_dictSet_of_nodup items [] (by simpa using h)

/-- An assignment keeps the keys of a dict distinct, -/
theorem nodup_dictSet {d : List (String × String)} (h : (d.map Prod.fst).Nodup) (k v : String) :
    ((dictSet d k v).map Prod.fst).Nodup := by
  unfold dictSet
  split_ifs with hk
  · rwa [List.map_map, show (Prod.fst ∘ fun p : String × String => if p.1 = k then (k, v) else p) =
      Prod.fst from funext fun p => by by_cases hp : p.1 = k <;> simp [hp]]
  · have : k ∉ d.map Prod.fst := fun hm => by
      obtain ⟨p, hp, rfl⟩ := List.mem_map.1 hm
      exact hk (List.any_eq_true.2 ⟨p, hp, beq_self_eq_true _⟩)
    rw [List.map_append, List.nodup_append]
    exact ⟨h, List.nodup_singleton _, fun a ha hb => by obtain rfl := List.mem_singleton.1 hb; exact this ha⟩

/-- so the dict of any assignments has distinct keys. -/
theorem nodup_dictOfItems (items : List (String × String)) : ((dictOfItems items).map Prod.fst).Nodup := by
  suffices ∀ acc : List (String × String), (acc.map Prod.fst).Nodup →
      ((items.foldl (fun d p => dictSet d p.1 p.2) acc).map Prod.fst).Nodup from this [] List.nodup_nil
  induction items with
  | nil => exact fun _ h => h
  | cons p items ih => exact fun acc h => ih _ (nodup_dictSet h _ _)

theorem lookup_of_mem {k v : String} : ∀ {l : List (String × String)},
    (l.map Prod.fst).Nodup → (k, v) ∈ l → l.lookup k = some v
  | [], _, hm => by simp at hm
  | (k', v') :: l, hn, hm => by
    rw [List.map_cons, List.nodup_cons] at hn
    rcases List.mem_cons.1 hm with h | h
    · cases h; simp [List.lookup_cons]
    · have hk : k ≠ k' := fun e => hn.1 (e ▸ List.mem_map.2 ⟨(k, v), h, rfl⟩)
      have hb : (k == k') = false := beq_false_of_ne hk
      simp [List.lookup_cons, hb, lookup_of_mem hn.2 h]

/-! ## No assignment overwritten -/

/-- A function of the device grid `x < n`, `1 ≤ d ≤ m` that tells devices apart lists each of its
values once. -/
theorem nodup_flatMap_range {n m : ℕ} {f : ℕ → ℕ → String}
    (hf : ∀ x < n, ∀ x' < n, ∀ d d', 1 ≤ d → d ≤ m → 1 ≤ d' → d' ≤ m → f x d = f x' d' →
      x = x' ∧ d = d') :
    ((List.range n).flatMap fun x => (List.range' 1 m).map (f x)).Nodup := by
  refine List.nodup_flatMap.2 ⟨fun x hx => (List.nodup_range' 1 m).map_on fun d hd d' hd' h => ?_,
    (List.nodup_range n).imp_of_mem fun {a b} ha hb hne => ?_⟩
  · simp only [List.mem_range, List.mem_range'_1] at hx hd hd'
    exact (hf x hx x hx d d' hd.1 (by omega) hd'.1 (by omega) h).2
  · rintro _ hy hy'
    obtain ⟨d, hd, rfl⟩ := List.mem_map.1 hy
    obtain ⟨d', hd', he⟩ := List.mem_map.1 hy'
    simp only [List.mem_range, List.mem_range'_1] at ha hb hd hd'
    exact hne (hf b hb a ha d' d hd'.1 (by omega) hd.1 (by omega) he).1.symm

theorem map_fst_macAssignments (n dx ds : ℕ) : (macAssignments n dx ds).map Prod.fst =
    (List.range n).flatMap (fun x => (List.range' 1 dx).map fun d => macAddr (xpuMacByte x d)) ++
      (List.range n).flatMap fun s => (List.range' 1 ds).map fun d => macAddr (switchMacByte s d) := by
  simp [macAssignments, List.map_flatMap, List.map_map, Function.comp_def]

theorem map_snd_macAssignments (n dx ds : ℕ) : (macAssignments n dx ds).map Prod.snd =
    (List.range n).flatMap (fun x => (List.range' 1 dx).map fun d => xpuDeviceName x d) ++
      (List.range n).flatMap fun s => (List.range' 1 ds).map fun d => switchDeviceName s d := by
  simp [macAssignments, List.map_flatMap, List.map_map, Function.comp_def]

/-- The XPU assignments come before the switch assignments; a value function that tells devices of
each kind apart and the two kinds apart lists each value once. -/
theorem nodup_macAssignments_of {n dx ds : ℕ} {f g : ℕ → ℕ → String}
    (hf : ∀ {x x' d d'}, x < n → x' < n → 1 ≤ d ∧ d ≤ dx → 1 ≤ d' ∧ d' ≤ dx → f x d = f x' d' →
      x = x' ∧ d = d')
    (hg : ∀ {s s' d d'}, s < n → s' < n → 1 ≤ d ∧ d ≤ ds → 1 ≤ d' ∧ d' ≤ ds → g s d = g s' d' →
      s = s' ∧ d = d')
    (hfg : ∀ x d s d', f x d ≠ g s d') :
    ((List.range n).flatMap (fun x => (List.range' 1 dx).map (f x)) ++
      (List.range n).flatMap fun s => (List.range' 1 ds).map (g s)).Nodup := by
  refine List.nodup_append.2 ⟨nodup_flatMap_range fun x hx x' hx' d d' h1 h2 h3 h4 =>
      hf hx hx' ⟨h1, h2⟩ ⟨h3, h4⟩,
    nodup_flatMap_range fun s hs s' hs' d d' h1 h2 h3 h4 => hg hs hs' ⟨h1, h2⟩ ⟨h3, h4⟩, ?_⟩
  rintro _ h1 h2
  simp only [List.mem_flatMap, List.mem_map] at h1 h2
  obtain ⟨x, -, d, -, rfl⟩ := h1
  obtain ⟨s, -, d', -, he⟩ := h2
  exact hfg x d s d' he.symm

/-- No device name occurs twice, whatever the sizes. -/
theorem nodup_macAssignments_names (n dx ds : ℕ) : ((macAssignments n dx ds).map Prod.snd).Nodup := by
  rw [map_snd_macAssignments]
  exact nodup_macAssignments_of (fun _ _ _ _ h => xpuDeviceName_inj h) (fun _ _ _ _ h => switchDeviceName_inj h)
    xpuDeviceName_ne_switchDeviceName

theorem mem_macAssignments_xpu {n dx ds x d : ℕ} (hx : x < n) (hd : 1 ≤ d) (hd' : d ≤ dx) :
    (macAddr (xpuMacByte x d), xpuDeviceName x d) ∈ macAssignments n dx ds := by
  simp only [macAssignments, List.mem_append, List.mem_flatMap, List.mem_map, List.mem_range,
    List.mem_range'_1, Prod.mk.injEq]
  exact .inl ⟨x, hx, d, ⟨hd, by omega⟩, rfl, rfl⟩

theorem mem_macAssignments_switch {n dx ds s d : ℕ} (hs : s < n) (hd : 1 ≤ d) (hd' : d ≤ ds) :
    (macAddr (switchMacByte s d), switchDeviceName s d) ∈ macAssignments n dx ds := by
  simp only [macAssignments, List.mem_append, List.mem_flatMap, List.mem_map, List.mem_range,
    List.mem_range'_1, Prod.mk.injEq]
  exact .inr ⟨s, hs, d, ⟨hd, by omega⟩, rfl, rfl⟩

theorem length_macAssignments (n dx ds : ℕ) : (macAssignments n dx ds).length = n * dx + n * ds := by
  simp [macAssignments, List.flatMap, Function.comp_def, List.map_const', List.sum_const_nat]

/-- Two devices of one MAC: then that MAC is assigned twice, and the dict is not the list of
assignments. -/
theorem generateMacDeviceMapping_ne_of_collision {n dx ds : ℕ} {mac a b : String} (hab : a ≠ b)
    (ha : (mac, a) ∈ macAssignments n dx ds) (hb : (mac, b) ∈ macAssignments n dx ds) :
    generateMacDeviceMapping n dx ds ≠ macAssignments n dx ds := fun h => by
  have hn := nodup_dictOfItems (macAssignments n dx ds)
  rw [← generateMacDeviceMapping, h] at hn
  exact hab (Prod.mk.inj (List.inj_on_of_nodup_map hn ha hb rfl)).2

section Lookups

variable {n dx ds : ℕ} (hx : n ≤ 1 ∨ dx ≤ 8) (hs : n ≤ 1 ∨ ds ≤ 2 ∨ n ≤ 4 ∧ ds ≤ 8)
include hx hs

/-- Under the byte conditions no MAC is assigned twice. -/
theorem nodup_macAssignments_keys : ((macAssignments n dx ds).map Prod.fst).Nodup := by
  rw [map_fst_macAssignments]
  exact nodup_macAssignments_of (fun h1 h2 h3 h4 h => xpuMacByte_inj hx h1 h2 h3 h4 (macAddr_inj h))
    (fun h1 h2 h3 h4 h => switchMacByte_inj hs h1 h2 h3 h4 (macAddr_inj h))
    fun _ _ _ _ h => xpuMacByte_ne_switchMacByte (macAddr_inj h)

/-- Every assignment survives: its MAC looks up its name, and the inverse table its MAC. -/
theorem lookup_generateMacDeviceMapping {mac name : String} (h : (mac, name) ∈ macAssignments n dx ds) :
    (generateMacDeviceMapping n dx ds).lookup mac = some name ∧
      (invertMap (generateMacDeviceMapping n dx ds)).lookup name = some mac := by
  have hk := nodup_macAssignments_keys hx hs
  have hv : (((macAssignments n dx ds).map Prod.swap).map Prod.fst).Nodup := by
    simpa [List.map_map, Function.comp_def] using nodup_macAssignments_names n dx ds
  rw [generateMacDeviceMapping, dictOfItems_of_nodup hk, invertMap, dictOfItems_of_nodup hv]
  exact ⟨lookup_of_mem hk h, lookup_of_mem hv (List.mem_map_of_mem Prod.swap h)⟩

end Lookups

/-- `generate_mac_device_mapping` keeps every device exactly when the byte formulas tell devices
apart: for XPUs when there is at most one XPU or at most eight devices each, for switches when
there is at most one switch, or at most two devices each, or at most four switches of at most
eight devices. Then the mapping is the assignments themselves, one entry a device, and every
device's MAC and name look each other up. Otherwise a later device takes an earlier one's MAC. -/
theorem generateMacDeviceMapping_spec (n dx ds : ℕ) :
    (generateMacDeviceMapping n dx ds = macAssignments n dx ds ↔
      (n ≤ 1 ∨ dx ≤ 8) ∧ (n ≤ 1 ∨ ds ≤ 2 ∨ n ≤ 4 ∧ ds ≤ 8)) ∧
    ((n ≤ 1 ∨ dx ≤ 8) → (n ≤ 1 ∨ ds ≤ 2 ∨ n ≤ 4 ∧ ds ≤ 8) →
      (generateMacDeviceMapping n dx ds).length = n * dx + n * ds ∧
      (∀ x < n, ∀ d, 1 ≤ d → d ≤ dx →
        (generateMacDeviceMapping n dx ds).lookup (macAddr (xpuMacByte x d)) = some (xpuDeviceName x d) ∧
        (invertMap (generateMacDeviceMapping n dx ds)).lookup (xpuDeviceName x d) =
          some (macAddr (xpuMacByte x d))) ∧
      (∀ s < n, ∀ d, 1 ≤ d → d ≤ ds →
        (generateMacDeviceMapping n dx ds).lookup (macAddr (switchMacByte s d)) =
          some (switchDeviceName s d) ∧
        (invertMap (generateMacDeviceMapping n dx ds)).lookup (switchDeviceName s d) =
          some (macAddr (switchMacByte s d)))) := by
  refine ⟨⟨fun h => ⟨?_, ?_⟩, fun ⟨hx, hs⟩ => dictOfItems_of_nodup (nodup_macAssignments_keys hx hs)⟩,
    fun hx hs => ⟨?_, fun x hx' d h1 h2 => ?_, fun s hs' d h1 h2 => ?_⟩⟩
  · -- two XPUs of nine devices: device 9 of XPU 0 has the byte of device 1 of XPU 1
    by_contra hc
    have h2 := @mem_macAssignments_xpu n dx ds 1 1 (by omega) le_rfl (by omega)
    rw [show xpuMacByte 1 1 = xpuMacByte 0 9 from rfl] at h2
    exact generateMacDeviceMapping_ne_of_collision (fun he => absurd (xpuDeviceName_inj he).1 (by decide))
      (mem_macAssignments_xpu (by omega) (by decide) (by omega)) h2 h
  · by_contra hc
    by_cases h5 : 5 ≤ n
    · -- five switches of three devices: device 1 of switch 4 has the byte of device 3 of switch 0
      have h2 := @mem_macAssignments_switch n dx ds 0 3 (by omega) (by decide) (by omega)
      rw [show switchMacByte 0 3 = switchMacByte 4 1 from rfl] at h2
      exact generateMacDeviceMapping_ne_of_collision
        (fun he => absurd (switchDeviceName_inj he).1 (by decide))
        (mem_macAssignments_switch (by omega) le_rfl (by omega)) h2 h
    · -- two switches of nine devices: device 9 of switch 0 has the byte of device 7 of switch 1
      have h2 := @mem_macAssignments_switch n dx ds 1 7 (by omega) (by decide) (by omega)
      rw [show switchMacByte 1 7 = switchMacByte 0 9 from rfl] at h2
      exact generateMacDeviceMapping_ne_of_collision
        (fun he => absurd (switchDeviceName_inj he).1 (by decide))
        (mem_macAssignments_switch (by omega) (by decide) (by omega)) h2 h
  · rw [generateMacDeviceMapping, dictOfItems_of_nodup (nodup_macAssignments_keys hx hs),
      length_macAssignments]
  · exact lookup_generateMacDeviceMapping hx hs (mem_macAssignments_xpu hx' h1 h2)
  · exact lookup_generateMacDeviceMapping hx hs (mem_macAssignments_switch hs' h1 h2)

/-- A credit record's target MAC of an XPU device of the default system is named by it. -/
theorem targetDeviceName_xpu {x d : ℕ} (hx : x < 4) (hd : 1 ≤ d) (hd' : d ≤ 8) :
    targetDeviceName (macAddr (xpuMacByte x d)) = xpuDeviceName x d := by
  simp [targetDeviceName, macToDeviceMap, (lookup_generateMacDeviceMapping (.inr le_rfl)
    (.inr (.inr ⟨le_rfl, le_rfl⟩)) (mem_macAssignments_xpu hx hd hd')).1]

theorem targetDeviceName_switch {s d : ℕ} (hs : s < 4) (hd : 1 ≤ d) (hd' : d ≤ 8) :
    targetDeviceName (macAddr (switchMacByte s d)) = switchDeviceName s d := by
  simp [targetDeviceName, macToDeviceMap, (lookup_generateMacDeviceMapping (.inr le_rfl)
    (.inr (.inr ⟨le_rfl, le_rfl⟩)) (mem_macAssignments_switch hs hd hd')).1]

end SueSim.Device
