import ChatRelay.Multiplexer

/-!
# What the multiplexer watches

Each request changes the registration of its own socket at most, and none if it is refused:
`registrations_of_register`, `mem_rearm_iff`. A socket that is closed is forgotten whether or
not it was watched: `mem_forget_iff`, `mem_drop_iff`.

A multiplexer that will refuse no change of interest (`GrantsRearms`) grants every one that is asked for
(`rearm_of_grants`), and stays so whatever else is asked of it.
-/

namespace ChatRelay.Multiplexer

variable {m m' : Multiplexer} {socket : Socket} {token : Token} {interest : Interest}
  {cause : IoError} {r : Registration}

theorem isRegistered_iff : m.isRegistered socket ↔ ∃ r ∈ m.registrations, r.socket = socket := by
  simp [isRegistered, find?]

/-- A granted registration is for a socket that was not watched. -/
theorem registrations_of_register (h : m.register socket token interest = (m', .ok ())) :
    (∀ r ∈ m.registrations, r.socket ≠ socket) ∧
      m'.registrations = ⟨socket, token, interest⟩ :: m.registrations := by
  unfold register at h
  split at h
  · cases h
  next hnot =>
  split at h
  · cases h
  · cases h
    refine ⟨fun r hr heq => hnot ?_, rfl⟩
    exact isRegistered_iff.2 ⟨r, hr, heq⟩

/-- So no socket is watched twice. -/
theorem nodup_of_register (hnodup : (m.registrations.map Registration.socket).Nodup)
    (h : m.register socket token interest = (m', .ok ())) :
    (m'.registrations.map Registration.socket).Nodup := by
  obtain ⟨hunknown, hregistrations⟩ := registrations_of_register h
  rw [hregistrations, List.map_cons, List.nodup_cons]
  refine ⟨fun hmem => ?_, hnodup⟩
  obtain ⟨r, hr, heq⟩ := List.mem_map.1 hmem
  exact hunknown r hr heq

/-- A refused one changes nothing. -/
theorem registrations_of_register_error
    (h : m.register socket token interest = (m', .error cause)) :
    m'.registrations = m.registrations := by
  unfold register at h
  split at h
  · cases h
    rfl
  · split at h
    · cases h
      rfl
    · cases h

/-- A granted change of interest replaces the registration of the socket. -/
theorem registrations_of_rearm (h : m.rearm socket token interest = (m', .ok ())) :
    m'.registrations = m.registrations.map fun r =>
      if r.socket = socket then ⟨socket, token, interest⟩ else r := by
  unfold rearm at h
  split at h
  · split at h
    · cases h
    · cases h
      rfl
  · cases h

/-- A refused one changes nothing. -/
theorem registrations_of_rearm_error (h : m.rearm socket token interest = (m', .error cause)) :
    m'.registrations = m.registrations := by
  unfold rearm at h
  split at h
  · split at h
    · cases h
      rfl
    · cases h
  · cases h
    rfl

/-- A granted change of interest keeps the sockets, and sets the interest of its own. -/
theorem mem_rearm_iff (h : m.rearm socket token interest = (m', .ok ())) :
    r ∈ m'.registrations ↔
      m.isRegistered socket ∧ r = ⟨socket, token, interest⟩ ∨
        r ∈ m.registrations ∧ r.socket ≠ socket := by
  rw [registrations_of_rearm h, List.mem_map, isRegistered_iff]
  constructor
  · rintro ⟨q, hq, rfl⟩
    split
    · next heq => exact Or.inl ⟨⟨q, hq, heq⟩, rfl⟩
    · next hne => exact Or.inr ⟨hq, hne⟩
  · rintro (⟨⟨q, hq, heq⟩, rfl⟩ | ⟨hr, hne⟩)
    · exact ⟨q, hq, if_pos heq⟩
    · exact ⟨r, hr, if_neg hne⟩

theorem sockets_of_rearm (h : m.rearm socket token interest = (m', .ok ())) :
    m'.registrations.map Registration.socket = m.registrations.map Registration.socket := by
  rw [registrations_of_rearm h, List.map_map]
  refine List.map_congr_left fun q _ => ?_
  rw [Function.comp_apply]
  split
  · next heq => exact heq.symm
  · rfl

theorem mem_forget_iff :
    r ∈ (m.forget socket).registrations ↔ r ∈ m.registrations ∧ r.socket ≠ socket := by
  simp [forget]

/-- Closing a socket forgets it, whatever came of the request to stop watching it. -/
theorem mem_drop_iff :
    r ∈ ((m.deregister socket).1.forget socket).registrations ↔
      r ∈ m.registrations ∧ r.socket ≠ socket := by
  rw [mem_forget_iff, deregister]
  split
  · rw [mem_forget_iff]
    exact and_iff_left_of_imp And.right
  · rfl

theorem drop_sublist :
    ((m.deregister socket).1.forget socket).registrations.Sublist m.registrations := by
  refine List.filter_sublist.trans ?_
  rw [deregister]
  split
  · exact List.filter_sublist
  · exact List.Sublist.refl _

/-- A change of a watched socket uses up one answer, and that answer settles it. -/
theorem rearm_of_isRegistered (h : m.isRegistered socket) (token : Token) (interest : Interest) :
    (m.rearm socket token interest).1.rearmVerdicts = m.rearmVerdicts.tail ∧
      (m.rearm socket token interest).2 = (nextVerdict m.rearmVerdicts).1 := by
  unfold rearm
  rw [if_pos h]
  rcases m.rearmVerdicts with _ | ⟨_ | cause, rest⟩ <;> exact ⟨rfl, rfl⟩

/-! ### Granted changes of interest -/

/-- No change of interest to come will be refused. -/
def GrantsRearms (m : Multiplexer) : Prop := ∀ verdict ∈ m.rearmVerdicts, verdict = none

/-- Then the change of a watched socket is granted, and so are the later ones. -/
theorem rearm_of_grants (h : m.GrantsRearms) (hregistered : m.isRegistered socket) (token : Token)
    (interest : Interest) :
    ∃ m', m.rearm socket token interest = (m', .ok ()) ∧ m'.GrantsRearms := by
  unfold rearm
  rw [if_pos hregistered]
  unfold GrantsRearms at h
  cases hverdicts : m.rearmVerdicts with
  | nil => exact ⟨_, rfl, fun verdict hmem => absurd hmem List.not_mem_nil⟩
  | cons first rest =>
    rw [hverdicts] at h
    obtain rfl : first = none := h first List.mem_cons_self
    exact ⟨_, rfl, fun verdict hmem => h verdict (List.mem_cons_of_mem _ hmem)⟩

theorem rearmVerdicts_register (m : Multiplexer) (socket : Socket) (token : Token)
    (interest : Interest) :
    (m.register socket token interest).1.rearmVerdicts = m.rearmVerdicts := by
  unfold register
  split
  · rfl
  · split <;> rfl

theorem rearmVerdicts_drop (m : Multiplexer) (socket : Socket) :
    ((m.deregister socket).1.forget socket).rearmVerdicts = m.rearmVerdicts := by
  rw [deregister]
  split <;> rfl

end ChatRelay.Multiplexer
