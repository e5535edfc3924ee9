import Mathlib.Tactic.Tauto
import Wildflow.System.SsrfProtection

/-!
# Spellings of a host

A name is judged alike in every spelling where the list covers it with the root dot just when it covers it without.
-/

namespace Wildflow.System
open Wildflow.Store Wildflow.Relay SSRFProtection List
variable {Address : Type} {net : Network Address} {p : SSRFProtection} {port : Int} {name host : List Char} {c : Char}

/-- Letters, digits, hyphens, underscores and dots. -/
def isHostChar (c : Char) : Bool :=
  48 ≤ c.toNat && c.toNat ≤ 57 || 65 ≤ c.toNat && c.toNat ≤ 90 || 97 ≤ c.toNat && c.toNat ≤ 122 || c ∈ ['-', '.', '_']

/-- DNS takes the host for this name: they differ in letter case and a root dot only. -/
def Spells (host name : List Char) : Prop :=
  (∀ c ∈ host, isHostChar c) ∧ (host.map Char.toLower = name ∨ host.map Char.toLower = name ++ ['.'])

structure HostName (net : Network Address) (name : List Char) : Prop where
  lower : Spells name name
  nonempty : name ≠ []
  noAddress : ∀ host, Spells host name → net.parseIP host = none

/-- The entry is the name itself, or a wildcard for it or a domain that it is in. -/
def Lists (entry name : List Char) : Prop :=
  name ≠ [] ∧ entry = name ∨ ∃ suffix, entry = '*' :: '.' :: suffix ∧ (name = suffix ∨ '.' :: suffix <:+ name)

def SSRFProtection.Covers (net : Network Address) (p : SSRFProtection) (name : List Char) : Prop :=
  ∃ item ∈ p.domainList, Lists ((trim isSpace item).map net.toLower) name

def SSRFProtection.PortOpen (p : SSRFProtection) (port : Int) : Prop := 1 ≤ port ∧ port ≤ 65535 ∧ p.isAllowedPort port

theorem itemCovers_iff {item : List Char} :
    itemCovers net name item = true ↔ Lists ((trim isSpace item).map net.toLower) name := by
  unfold itemCovers Lists
  generalize (trim isSpace item).map net.toLower = entry
  split
  · grind
  · next suffix =>
    simp only [Bool.or_eq_true, decide_eq_true_eq, isSuffixOf_iff_suffix]
    grind
  · grind

theorem isHostChar_ascii (shown : isHostChar c) : c.toNat < 128 ∧ isSpace c = false := by
  simp only [isHostChar, mem_cons, not_mem_nil, Bool.or_eq_true, Bool.and_eq_true,
    decide_eq_true_eq, or_false] at shown
  rcases shown with range | rfl | rfl | rfl
  · refine ⟨by omega, ?_⟩
    simp [isSpace]
    omega
  all_goals decide

theorem Spells.untrimmed (spells : Spells host name) : trim isSpace host = host := by
  have kept : ∀ text : List Char, (∀ c ∈ text, isHostChar c) → text.dropWhile isSpace = text := by
    intro text shown
    cases text with
    | nil => rfl
    | cons c rest => simp [(isHostChar_ascii (shown c List.mem_cons_self)).2]
  rw [trim, kept host spells.1, kept _ fun c mem => spells.1 c (mem_reverse.mp mem), reverse_reverse]

section
variable (named : HostName net name)
include named

theorem HostName.lowered : name.map Char.toLower = name := by
  rcases named.lower.2 with same | longer
  · exact same
  · simpa using congrArg List.length longer

theorem HostName.rooted : Spells (name ++ ['.']) name := by
  refine ⟨fun c mem => ?_, .inr (by rw [map_append, named.lowered]; rfl)⟩
  rcases mem_append.mp mem with inside | dot
  · exact named.lower.1 c inside
  · rw [mem_singleton.mp dot]
    rfl

variable (ascii : ∀ c : Char, c.toNat < 128 → net.toLower c = c.toLower)
include ascii

theorem validateNetworkTarget_ok_iff (spells : Spells host name) : p.validateNetworkTarget net host port = .ok () ↔
    p.PortOpen port ∧ (p.Covers net (host.map Char.toLower) ↔ p.domainFilterMode = true) := by
  have lowered : host.map net.toLower = host.map Char.toLower :=
    map_congr_left fun c mem => ascii c (isHostChar_ascii (spells.1 c mem)).1
  have nonempty : host ≠ [] := by
    rintro rfl
    rcases spells.2 with plain | dotted
    · exact named.nonempty plain.symm
    · simp at dotted
  simp only [validateNetworkTarget, spells.untrimmed, nonempty, if_false, named.noAddress host spells, isDomainAllowed,
    isDomainListed, lowered, PortOpen, Covers, ← itemCovers_iff, ← any_eq_true]
  grind

theorem validateNetworkTarget_spelling_iff (p : SSRFProtection) (port : Int) :
    ((∀ first second, Spells first name → Spells second name →
        (p.validateNetworkTarget net first port = .ok () ↔ p.validateNetworkTarget net second port = .ok ())) ∧
      (p.domainFilterMode = false → p.Covers net name → ∀ host, Spells host name →
        p.validateNetworkTarget net host port ≠ .ok ())) ↔
    (p.PortOpen port → (p.Covers net name ↔ p.Covers net (name ++ ['.']))) := by
  have plain := @validateNetworkTarget_ok_iff _ _ p port _ _ named ascii named.lower
  have dotted := @validateNetworkTarget_ok_iff _ _ p port _ _ named ascii named.rooted
  rw [named.lowered] at plain
  rw [map_append, named.lowered] at dotted
  constructor
  · rintro ⟨same, -⟩ isOpen
    have alike := plain.symm.trans ((same _ _ named.lower named.rooted).trans dotted)
    rw [and_iff_right isOpen, and_iff_right isOpen] at alike
    change (_ ↔ (p.Covers net (name ++ ['.']) ↔ _)) at alike
    tauto
  · intro alike
    have verdict : ∀ host, Spells host name → (p.validateNetworkTarget net host port = .ok () ↔
        p.PortOpen port ∧ (p.Covers net name ↔ p.domainFilterMode = true)) := by
      intro host spells
      rw [validateNetworkTarget_ok_iff named ascii spells]
      apply and_congr_right
      intro isOpen
      rcases spells.2 with plain | dotted
      · rw [plain]
      · rw [dotted, alike isOpen]
    refine ⟨fun first second left right => (verdict _ left).trans (verdict _ right).symm, ?_⟩
    intro black covered host spells accepted
    simpa [black] using ((verdict host spells).mp accepted).2.mp covered

end

def plainNetwork : Network Unit := ⟨Char.toLower, fun _ => none, fun _ => false, fun _ _ => false⟩

def blacklist (names : List String) : SSRFProtection := ⟨false, false, names.map String.toList, false, [], []⟩

theorem blacklist_both_spellings :
    (blacklist ["example.com", "example.com."]).validateNetworkTarget plainNetwork "Example.com".toList 443 ≠ .ok () :=
  ((@validateNetworkTarget_spelling_iff _ plainNetwork "example.com".toList
    ⟨⟨all_eq_true.mp rfl, .inl rfl⟩, nofun, fun _ _ => rfl⟩ (fun _ _ => rfl) (blacklist ["example.com", "example.com."]) 443).mpr
    fun _ => iff_of_true ⟨_, mem_cons_self, .inl ⟨nofun, rfl⟩⟩
      ⟨_, mem_cons_of_mem _ mem_cons_self, .inl ⟨nofun, rfl⟩⟩).2 rfl
    ⟨_, mem_cons_self, .inl ⟨nofun, rfl⟩⟩ _ ⟨all_eq_true.mp rfl, .inl rfl⟩

theorem blacklist_accepts_root_dot :
    (blacklist ["example.com"]).validateNetworkTarget plainNetwork "example.com".toList 443 ≠ .ok () ∧
      (blacklist ["example.com"]).validateNetworkTarget plainNetwork "example.com.".toList 443 = .ok () :=
  ⟨nofun, rfl⟩

end Wildflow.System
