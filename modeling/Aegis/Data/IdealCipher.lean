/-
  Data.IdealCipher — authenticated encryption as an ideal cipher: what is opened is what was sealed.

  The log keeps what has been sealed under which key, nonce and context. A text that nobody sealed
  opens to nothing, under whatever key.
  - `open_sealed`: where no text is in the log twice, what was sealed opens to it.
  - `sealed_of_open`: what opens was sealed.
-/

import Mathlib.Data.List.Nodup

namespace Data

/-- One use of the cipher: the text that stands for `plain` under a key, a nonce and a context. -/
structure Sealing (β γ : Type) where
  key : β
  nonce : β
  context : γ
  plain : β
  text : β
  deriving DecidableEq, Repr

namespace IdealCipher

variable {β γ : Type} [DecidableEq β] [DecidableEq γ]

/-- The plain text of what was sealed under this key, nonce and context; nothing for any other text. -/
def open? (log : List (Sealing β γ)) (key nonce : β) (context : γ) (text : β) : Option β :=
  (log.find? fun s => s.key = key ∧ s.nonce = nonce ∧ s.context = context ∧ s.text = text).map (·.plain)

variable {log : List (Sealing β γ)} {key nonce text plain : β} {context : γ}

theorem sealed_of_open (h : open? log key nonce context text = some plain) : (⟨key, nonce, context, plain, text⟩ : Sealing β γ) ∈ log := by
  obtain ⟨s, hs, rfl⟩ := Option.map_eq_some_iff.mp h
  have hmem := List.mem_of_find?_eq_some hs
  have hfit := List.find?_some hs
  simp only [decide_eq_true_eq] at hfit
  obtain ⟨rfl, rfl, rfl, rfl⟩ := hfit
  exact hmem

theorem open_sealed (htexts : (log.map (·.text)).Nodup) (h : (⟨key, nonce, context, plain, text⟩ : Sealing β γ) ∈ log) :
    open? log key nonce context text = some plain := by
  cases hfound : log.find? fun s => s.key = key ∧ s.nonce = nonce ∧ s.context = context ∧ s.text = text with
  | none =>
    have hnone := List.find?_eq_none.mp hfound _ h
    simp at hnone
  | some s =>
    have hs := List.mem_of_find?_eq_some hfound
    have hfit := List.find?_some hfound
    simp only [decide_eq_true_eq] at hfit
    obtain rfl := List.inj_on_of_nodup_map htexts hs h hfit.2.2.2
    unfold open?
    rw [hfound]
    rfl

end IdealCipher

end Data
