import Mathlib.Data.List.Nodup
import Xczu47dr.Provisioning.NetworkIdentity
import Xczu47dr.Host.PackedWaves

/-! # The identities provisioning hands out

No board may be given the address or the MAC of another one that answered the
discovery. The duplicate check of the source refuses a board that has exactly
one of the two, and compares MACs by their text.
-/

namespace Xczu47dr.Provisioning

open HexText
open Refusals

variable {own : Identity} {known : List Identity} {target : Target} {options : Options} {probe : Option Bool}

/-! ## What is asked of a call -/

/-- The refusal is about another board than the one to be provisioned. -/
def Refusal.BlamesOther (own : Identity) (known : List Identity) : Refusal → Prop
  | .ipUsed ip deviceUid =>
      ∃ other ∈ known, other ≠ own ∧ other.board.deviceUid = deviceUid ∧ other.board.currentIp = ip
  | .macUsed mac deviceUid =>
      ∃ other ∈ known, other ≠ own ∧ other.board.deviceUid = deviceUid ∧ macNumber mac = some other.mac.toNat
  | .ipConflict ip => ip ≠ own.board.currentIp
  | _ => True

structure KeepsUnique (own : Identity) (known : List Identity) (target : Target) : Prop where
  unique : ∀ options probe apply, provisionBoard own.board target options (known.map Identity.board) probe = .ok apply →
    ∀ other ∈ known, other ≠ own →
      other.board.currentIp ≠ apply.ip ∧ macNumber apply.mac ≠ some other.mac.toNat
  blames : ∀ options probe refusal,
    provisionBoard own.board target options (known.map Identity.board) probe = .error refusal →
      refusal.BlamesOther own known

/-- Whoever else has the target MAC is told apart by the check: it has the MAC in the spelling of
the target or the target address, not both. Else a third board has the target address. -/
def HolderSeen (own : Identity) (known : List Identity) (target : Target) : Prop :=
  ∀ targetIp targetMac, validateIpv4 target.ip .ip = .ok targetIp →
    validateMac (target.requestedMac own.board) = .ok targetMac →
      ∀ holder ∈ known, holder ≠ own → macNumber targetMac = some holder.mac.toNat →
        (targetMac = holder.board.currentMac ↔ holder.board.currentIp ≠ targetIp) ∨
          ∃ third ∈ known, third ≠ own ∧ third.mac ≠ holder.mac ∧ third.board.currentIp = targetIp

/-! ## Texts of a response -/

theorem board_deviceUid (identity : Identity) : identity.board.deviceUid = hexText 16 identity.uid.toNat := rfl

theorem board_currentMac (identity : Identity) : identity.board.currentMac = u64Mac identity.mac := rfl

theorem lower_u64Mac (mac : BitVec 48) : lower (u64Mac mac) = u64Mac mac := by
  rw [u64Mac, lower_pairsJoined (by decide), lower_hexText]

theorem alphabet_plain : ∀ c ∈ alphabet, c ≠ ':' ∧ c ≠ '-' ∧ isSpace c = false := forall_alphabet (by decide)

theorem filter_hexText {separator : Char} (foreign : separator ∉ alphabet) (width n : Nat) :
    (hexText width n).filter (· ≠ separator) = hexText width n := by
  apply List.filter_eq_self.mpr
  intro c mem
  apply decide_eq_true
  rintro rfl
  exact foreign (mem_hexText mem)

theorem unseparated_u64Mac (mac : BitVec 48) : unseparated (u64Mac mac) = hexText 12 mac.toNat := by
  rw [unseparated, u64Mac, filter_pairsJoined, filter_hexText (by decide), filter_hexText (by decide)]

theorem macNumber_u64Mac (mac : BitVec 48) : macNumber (u64Mac mac) = some mac.toNat := by
  have small : mac.toNat < 16 ^ 12 := lt_of_lt_of_eq mac.isLt (by norm_num)
  rw [macNumber, unseparated_u64Mac, readHex_hexText (by decide), Nat.mod_eq_of_lt small]

theorem u64Mac_injective {mac other : BitVec 48} (same : u64Mac mac = u64Mac other) : mac = other := by
  have number := macNumber_u64Mac mac
  rw [same, macNumber_u64Mac] at number
  exact (BitVec.eq_of_toNat_eq (Option.some.inj number)).symm

theorem mem_pairsJoined {separator c : Char} {text : Text} (mem : c ∈ pairsJoined separator text)
    (other : c ≠ separator) : c ∈ text := by
  have kept : c ∈ (pairsJoined separator text).filter (· ≠ separator) :=
    List.mem_filter.mpr ⟨mem, decide_eq_true other⟩
  rw [filter_pairsJoined] at kept
  exact (List.mem_filter.mp kept).1

theorem normalized_u64Mac (mac : BitVec 48) : normalized (u64Mac mac) = u64Mac mac := by
  have inked : ∀ c ∈ u64Mac mac, isSpace c = false := by
    intro c mem
    by_cases colon : c = ':'
    · rw [colon]
      decide
    · exact (alphabet_plain c (mem_hexText (mem_pairsJoined mem colon))).2.2
  rw [normalized, strip_eq inked, lower_u64Mac]

theorem normalized_hexText (width n : Nat) : normalized (hexText width n) = hexText width n := by
  rw [normalized, strip_eq fun c mem => (alphabet_plain c (mem_hexText mem)).2.2, lower_hexText]

theorem u64Mac_present (mac : BitVec 48) : u64Mac mac ≠ [] := by
  intro empty
  have number := macNumber_u64Mac mac
  rw [empty] at number
  cases number

theorem validateMac_lower {requested targetMac : Text} (valid : validateMac requested = .ok targetMac) :
    lower targetMac = targetMac := by
  unfold validateMac at valid
  split at valid
  · cases valid
  · split at valid
    · cases valid
    · split at valid
      · cases valid
      · rw [← Except.ok.inj valid, lower_pairsJoined (by decide), lower_lower]

/-! ## The duplicate check -/

section Check

variable {targetIp targetMac : Text}

theorem orElse_currentMac : orElse own.board.currentMac targetMac = own.board.currentMac := by
  rw [orElse, board_currentMac, if_neg (u64Mac_present own.mac)]

theorem checkBoard_own : checkBoard own.board targetIp targetMac own.board.deviceUid own.board.currentMac = .ok () := by
  have present : normalized own.board.deviceUid ≠ [] := by
    rw [board_deviceUid, normalized_hexText]
    exact List.ne_nil_of_length_pos (by rw [length_hexText]; decide)
  have mac : orElse own.board.currentMac targetMac = own.board.currentMac := orElse_currentMac
  rw [checkBoard, mac]
  exact if_pos ⟨present, rfl, rfl⟩

/-- Another board is never taken for the one to be provisioned. -/
theorem checkBoard_other {other : Identity} (apart : other.mac ≠ own.mac) (lowered : lower targetMac = targetMac) :
    checkBoard other.board targetIp targetMac own.board.deviceUid own.board.currentMac =
      if other.board.currentIp = targetIp ∧ other.board.currentMac ≠ targetMac then
        .error (.ipUsed targetIp other.board.deviceUid)
      else if other.board.currentMac = targetMac ∧ other.board.currentIp ≠ targetIp then
        .error (.macUsed targetMac other.board.deviceUid)
      else .ok () := by
  have mac : orElse own.board.currentMac targetMac = own.board.currentMac := orElse_currentMac
  have text : lower other.board.currentMac = other.board.currentMac := by rw [board_currentMac, lower_u64Mac]
  have different : normalized other.board.currentMac ≠ normalized own.board.currentMac := by
    rw [board_currentMac, board_currentMac, normalized_u64Mac, normalized_u64Mac]
    exact fun same => apart (u64Mac_injective same)
  unfold checkBoard
  simp only
  rw [mac, text, lowered, if_neg fun skipped => different skipped.2.2]

theorem checkBoard_other_ok {other : Identity} (apart : other.mac ≠ own.mac) (lowered : lower targetMac = targetMac) :
    checkBoard other.board targetIp targetMac own.board.deviceUid own.board.currentMac = .ok () ↔
      (other.board.currentIp = targetIp ↔ other.board.currentMac = targetMac) := by
  rw [checkBoard_other apart lowered]
  by_cases ip : other.board.currentIp = targetIp <;> by_cases mac : other.board.currentMac = targetMac
  · rw [if_neg fun used => used.2 mac, if_neg fun used => used.2 ip]
    exact iff_of_true rfl (iff_of_true ip mac)
  · rw [if_pos ⟨ip, mac⟩]
    exact iff_of_false nofun fun same => mac (same.mp ip)
  · rw [if_neg fun used => ip used.1, if_pos ⟨mac, ip⟩]
    exact iff_of_false nofun fun same => ip (same.mpr mac)
  · rw [if_neg fun used => ip used.1, if_neg fun used => mac used.1]
    exact iff_of_true rfl (iff_of_false ip mac)

theorem checkDuplicates_ok {boards : List DiscoveredBoard} {uid mac : Text} :
    checkDuplicateAssignments targetIp targetMac uid mac boards = .ok () ↔
      ∀ board ∈ boards, checkBoard board targetIp targetMac uid mac = .ok () := by
  induction boards with
  | nil => exact iff_of_true rfl nofun
  | cons board rest ih =>
      rw [checkDuplicateAssignments, List.forall_mem_cons, ← ih]
      cases checked : checkBoard board targetIp targetMac uid mac with
      | ok => exact (and_iff_right rfl).symm
      | error refusal => exact iff_of_false nofun fun ⟨bad, _⟩ => nomatch bad

theorem checkDuplicates_error {boards : List DiscoveredBoard} {uid mac : Text} {refusal : Refusal}
    (refused : checkDuplicateAssignments targetIp targetMac uid mac boards = .error refusal) :
    ∃ board ∈ boards, checkBoard board targetIp targetMac uid mac = .error refusal := by
  induction boards with
  | nil => cases refused
  | cons board rest ih =>
      rw [checkDuplicateAssignments] at refused
      cases checked : checkBoard board targetIp targetMac uid mac with
      | ok =>
          rw [checked] at refused
          obtain ⟨other, mem, otherChecked⟩ := ih refused
          exact ⟨other, List.mem_cons_of_mem board mem, otherChecked⟩
      | error reason =>
          rw [checked] at refused
          cases refused
          exact ⟨board, List.mem_cons_self, checked⟩

end Check

/-- Boards of distinct MACs are told apart by them. -/
theorem mac_ne (distinct : (known.map Identity.mac).Nodup) {first second : Identity} (firstMem : first ∈ known)
    (secondMem : second ∈ known) (different : first ≠ second) : first.mac ≠ second.mac :=
  fun same => different (List.inj_on_of_nodup_map distinct firstMem secondMem same)

/-- The check passes when every other board has both or none. -/
theorem checkKnown_ok (listed : own ∈ known) (distinct : (known.map Identity.mac).Nodup) {targetIp targetMac : Text}
    (lowered : lower targetMac = targetMac) :
    checkDuplicateAssignments targetIp targetMac own.board.deviceUid own.board.currentMac
        (known.map Identity.board) = .ok () ↔
      ∀ other ∈ known, other ≠ own → (other.board.currentIp = targetIp ↔ other.board.currentMac = targetMac) := by
  rw [checkDuplicates_ok, List.forall_mem_map]
  apply forall₂_congr
  intro other mem
  by_cases self : other = own
  · rw [self]
    exact iff_of_true checkBoard_own fun apart => absurd rfl apart
  · rw [checkBoard_other_ok (mac_ne distinct mem listed self) lowered]
    exact ⟨fun same _ => same, fun same => same self⟩

/-! ## A whole call -/

theorem provisionBoard_ok {board : DiscoveredBoard} {boards : List DiscoveredBoard} {apply : NetworkApply}
    (applied : provisionBoard board target options boards probe = .ok apply) :
    validateIpv4 target.ip .ip = .ok apply.ip ∧ validateMac (target.requestedMac board) = .ok apply.mac ∧
      checkDuplicateAssignments apply.ip apply.mac board.deviceUid board.currentMac boards = .ok () := by
  simp only [provisionBoard, bind_ok, refuse_ok, pure_ok] at applied
  obtain ⟨targetIp, ip, _, _, _, _, targetMac, mac, _, _, _, _, checked, _, _, rfl⟩ := applied
  exact ⟨ip, mac, checked⟩

theorem validateIpv4_error {value : Text} {field : AddressField} {refusal : Refusal}
    (refused : validateIpv4 value field = .error refusal) : refusal = .ipv4 field value := by
  unfold validateIpv4 at refused
  simp only at refused
  split at refused
  · split at refused
    · cases refused
    · exact (Except.error.inj refused).symm
  · exact (Except.error.inj refused).symm

theorem validateMac_error {value : Text} {refusal : Refusal} (refused : validateMac value = .error refusal) :
    refusal = .macLength value ∨ refusal = .macDigits value ∨ refusal = .macUnicast value := by
  unfold validateMac at refused
  split at refused
  · exact .inl (Except.error.inj refused).symm
  · split at refused
    · exact .inr (.inl (Except.error.inj refused).symm)
    · split at refused
      · exact .inr (.inr (Except.error.inj refused).symm)
      · cases refused

theorem provisionBoard_error {board : DiscoveredBoard} {boards : List DiscoveredBoard} {refusal : Refusal}
    (refused : provisionBoard board target options boards probe = .error refusal) :
    (∃ field value, refusal = .ipv4 field value) ∨
      (∃ value, refusal = .macLength value ∨ refusal = .macDigits value ∨ refusal = .macUnicast value) ∨
      refusal = .port ∨ refusal = .unverified ∨
      (∃ targetIp targetMac, validateMac (target.requestedMac board) = .ok targetMac ∧
        checkDuplicateAssignments targetIp targetMac board.deviceUid board.currentMac boards = .error refusal) ∨
      ∃ targetIp, targetIp ≠ board.currentIp ∧ refusal = .ipConflict targetIp := by
  simp only [provisionBoard, bind_error, refuse_error] at refused
  obtain ip | ⟨targetIp, _, mask | ⟨_, _, gateway | ⟨_, _, mac | ⟨targetMac, mac, source | ⟨_, _, ⟨_, port⟩ | ⟨_,
    checked | ⟨_, _, ⟨conflict, probed⟩ | ⟨_, ⟨_, unverified⟩ | ⟨_, bad⟩⟩⟩⟩⟩⟩⟩⟩⟩ := refused
  · exact .inl ⟨_, _, validateIpv4_error ip⟩
  · exact .inl ⟨_, _, validateIpv4_error mask⟩
  · exact .inl ⟨_, _, validateIpv4_error gateway⟩
  · exact .inr (.inl ⟨_, validateMac_error mac⟩)
  · left
    unfold Options.verifiedSourceIp at source
    split at source
    · exact ⟨_, _, validateIpv4_error source⟩
    · cases source
  · exact .inr (.inr (.inl port.symm))
  · exact .inr (.inr (.inr (.inr (.inl ⟨targetIp, targetMac, mac, checked⟩))))
  · refine .inr (.inr (.inr (.inr (.inr ⟨targetIp, ?_, probed.symm⟩))))
    intro unchanged
    rw [if_pos unchanged] at conflict
    cases conflict
  · exact .inr (.inr (.inr (.inl unverified.symm)))
  · cases bad

def plainOptions : Options :=
  { subnetMask := "255.255.255.0".toList, gateway := "0.0.0.0".toList, port := 1234, revision := none,
    rejectUnverifiedConflict := false, verificationSourceIp := none }

theorem provisionBoard_plain {board : DiscoveredBoard} {boards : List DiscoveredBoard} {targetIp targetMac : Text}
    (ip : validateIpv4 target.ip .ip = .ok targetIp) (mac : validateMac (target.requestedMac board) = .ok targetMac)
    (checked : checkDuplicateAssignments targetIp targetMac board.deviceUid board.currentMac boards = .ok ()) :
    ∃ apply, provisionBoard board target plainOptions boards (some false) = .ok apply ∧
      apply.ip = targetIp ∧ apply.mac = targetMac := by
  have mask : validateIpv4 plainOptions.subnetMask .subnetMask = .ok "255.255.255.0".toList := by decide
  have gateway : validateIpv4 plainOptions.gateway .gateway = .ok "0.0.0.0".toList := by decide
  simp only [provisionBoard, bind_ok, refuse_ok, pure_ok]
  refine ⟨_, ⟨targetIp, ip, _, mask, _, gateway, targetMac, mac, _, rfl, by decide, (), checked, ?_, ?_, rfl⟩, rfl, rfl⟩
  · split <;> nofun
  · split <;> nofun

theorem macNumber_of_text {targetMac : Text} {identity : Identity} (same : identity.board.currentMac = targetMac) :
    macNumber targetMac = some identity.mac.toNat := by
  rw [← same, board_currentMac, macNumber_u64Mac]

/-- No refusal is about the board itself. -/
theorem blames_other (listed : own ∈ known) (distinct : (known.map Identity.mac).Nodup) {refusal : Refusal}
    (refused : provisionBoard own.board target options (known.map Identity.board) probe = .error refusal) :
    refusal.BlamesOther own known := by
  rcases provisionBoard_error refused with ⟨_, _, rfl⟩ | ⟨_, rfl | rfl | rfl⟩ | rfl | rfl |
    ⟨targetIp, targetMac, valid, checked⟩ | ⟨targetIp, moved, rfl⟩
  · trivial
  · trivial
  · trivial
  · trivial
  · trivial
  · trivial
  · obtain ⟨_, listedBoard, checkedBoard⟩ := checkDuplicates_error checked
    obtain ⟨other, mem, rfl⟩ := List.mem_map.mp listedBoard
    have apart : other ≠ own := by
      rintro rfl
      rw [checkBoard_own] at checkedBoard
      cases checkedBoard
    rw [checkBoard_other (mac_ne distinct mem listed apart) (validateMac_lower valid)] at checkedBoard
    split at checkedBoard
    · rename_i used
      cases checkedBoard
      exact ⟨other, mem, apart, rfl, used.1⟩
    · split at checkedBoard
      · rename_i used
        cases checkedBoard
        exact ⟨other, mem, apart, rfl, macNumber_of_text used.1⟩
      · cases checkedBoard
  · exact moved

/-- Provisioning keeps the identities unique exactly when the holder of the target MAC is seen. -/
theorem keepsUnique_iff (listed : own ∈ known) (distinct : (known.map Identity.mac).Nodup) :
    KeepsUnique own known target ↔ HolderSeen own known target := by
  constructor
  · intro keeps targetIp targetMac ip mac holder mem apart holds
    by_contra unseen
    obtain ⟨both, alone⟩ := not_or.mp unseen
    -- then every board passes the check, and a free address is applied
    have checked : checkDuplicateAssignments targetIp targetMac own.board.deviceUid own.board.currentMac
        (known.map Identity.board) = .ok () := by
      refine (checkKnown_ok listed distinct (validateMac_lower mac)).mpr fun other otherMem otherApart => ?_
      by_cases self : other = holder
      · rw [not_iff, not_iff_not] at both
        rw [self]
        exact both.symm.trans eq_comm
      · have otherMac := mac_ne distinct otherMem mem self
        have otherIp : other.board.currentIp ≠ targetIp := fun same => alone ⟨other, otherMem, otherApart, otherMac, same⟩
        refine iff_of_false otherIp fun text => otherMac ?_
        have number := macNumber_of_text text
        rw [holds] at number
        exact (BitVec.eq_of_toNat_eq (Option.some.inj number)).symm
    obtain ⟨apply, applied, _, applyMac⟩ := provisionBoard_plain ip mac checked
    have safe := keeps.unique _ _ apply applied holder mem apart
    rw [applyMac] at safe
    exact safe.2 holds
  · intro seen
    refine ⟨fun options probe apply applied => ?_, fun options probe refusal refused => blames_other listed distinct refused⟩
    obtain ⟨ip, mac, checked⟩ := provisionBoard_ok applied
    rw [checkKnown_ok listed distinct (validateMac_lower mac)] at checked
    have unheld : ∀ other ∈ known, other ≠ own → macNumber apply.mac ≠ some other.mac.toNat := by
      intro holder mem apart holds
      rcases seen apply.ip apply.mac ip mac holder mem apart holds with told | ⟨third, thirdMem, thirdApart, other, thirdIp⟩
      · have both := checked holder mem apart
        exact iff_not_self (told.trans (not_congr (both.trans eq_comm)))
      · have text := (checked third thirdMem thirdApart).mp thirdIp
        have number := macNumber_of_text text
        rw [holds] at number
        exact other (BitVec.eq_of_toNat_eq (Option.some.inj number)).symm
    intro other mem apart
    refine ⟨fun sameIp => ?_, unheld other mem apart⟩
    exact unheld other mem apart (macNumber_of_text ((checked other mem apart).mp sameIp))

/-! ## A board that has both -/

/-- A board fresh from the factory, at its link-local address. -/
def fresh : Identity := { uid := 0x47d00081, ip := 0xA9FE2001, mac := 0x0247d0000081, revision := 0 }

def inService : Identity := { uid := 0x47d00082, ip := 0xC0A80180, mac := 0x020000000001, revision := 3 }

def asked (ip mac : String) : Target := { ip := ip.toList, mac := some mac.toList }

/-- The whole identity of the board in service is applied to the fresh one, and its MAC alone when
it is spelled with a sign; ARP cannot be probed in the first case and finds a free address in the second. -/
theorem inService_taken :
    (fresh ∈ [fresh, inService] ∧ ([fresh, inService].map Identity.mac).Nodup) ∧
      ¬ KeepsUnique fresh [fresh, inService] (asked "192.168.1.128" "02:00:00:00:00:01") ∧
      ¬ KeepsUnique fresh [fresh, inService] (asked "192.168.1.129" "+2:00:00:00:00:01") := by
  refine ⟨by decide, fun keeps => ?_, fun keeps => ?_⟩
  · obtain ⟨apply, applied, ip⟩ : ∃ apply, provisionBoard fresh.board (asked "192.168.1.128" "02:00:00:00:00:01")
        plainOptions ([fresh, inService].map Identity.board) none = .ok apply ∧
          apply.ip = inService.board.currentIp := ⟨_, rfl, by decide⟩
    exact (keeps.unique plainOptions none apply applied inService (by decide) (by decide)).1 ip.symm
  · obtain ⟨apply, applied, mac⟩ : ∃ apply, provisionBoard fresh.board (asked "192.168.1.129" "+2:00:00:00:00:01")
        plainOptions ([fresh, inService].map Identity.board) (some false) = .ok apply ∧
          macNumber apply.mac = some inService.mac.toNat := ⟨_, rfl, by decide⟩
    exact (keeps.unique plainOptions (some false) apply applied inService (by decide) (by decide)).2 mac

/-- A new MAC at a new address is safe. -/
theorem fresh_keepsUnique : KeepsUnique fresh [fresh, inService] (asked "192.168.1.129" "02:00:00:00:00:02") := by
  refine (keepsUnique_iff (by decide) (by decide)).mpr ?_
  intro targetIp targetMac _ mac holder mem apart holds
  have known : targetMac = "02:00:00:00:00:02".toList := by
    have computed : validateMac ((asked "192.168.1.129" "02:00:00:00:00:02").requestedMac fresh.board) =
        .ok "02:00:00:00:00:02".toList := by decide
    rw [computed] at mac
    exact (Except.ok.inj mac).symm
  have unheld : ∀ other ∈ [fresh, inService], macNumber "02:00:00:00:00:02".toList ≠ some other.mac.toNat := by
    decide
  rw [known] at holds
  exact absurd holds (unheld holder mem)

end Xczu47dr.Provisioning
