import Mathlib
import Tracepoint.Generation
import Tracepoint.Proofs.Steps

namespace Tracepoint

variable {b c : Backend} {k : Kind} {value : Value}

theorem Backend.name_of_ofName? {name : String} (h : Backend.ofName? name = some b) :
    b.name = name := by
  simpa using List.find?_some h

theorem Kind.flag_of_ofFlag? {flag : String} (h : Kind.ofFlag? flag = some k) :
    k.flag = flag := by
  simpa using List.find?_some h

theorem Backend.name_injective (h : b.name = c.name) : b = c := by
  have hfound := congrArg ofName? h
  rw [ofName?_name, ofName?_name] at hfound
  exact Option.some.inj hfound

theorem Backend.resolve_eq_ok (h : Backend.resolve value = .ok b) : .str b.name = value := by
  cases value with
  | str s =>
    cases hs : Backend.ofName? s with
    | none => simp [Backend.resolve, hs] at h
    | some c =>
      have hb : c = b := by simpa [Backend.resolve, hs] using h
      subst hb
      exact congrArg Value.str (Backend.name_of_ofName? hs)
  | _ => simp [Backend.resolve] at h

theorem Kind.resolve_eq_ok (h : Kind.resolve value = .ok k) : .str k.flag = value := by
  cases value with
  | str s =>
    cases hs : Kind.ofFlag? s with
    | none => simp [Kind.resolve, hs] at h
    | some c =>
      have hk : c = k := by simpa [Kind.resolve, hs] using h
      subst hk
      exact congrArg Value.str (Kind.flag_of_ofFlag? hs)
  | _ => simp [Kind.resolve] at h

theorem resolve_eq_ok {backend kind : Value} (h : resolve backend kind = .ok (b, k)) :
    .str b.name = backend ∧ .str k.flag = kind := by
  obtain ⟨b', hbackend, h⟩ := Except.bind_ok_iff.mp h
  obtain ⟨k', hkind, h⟩ := Except.bind_ok_iff.mp h
  obtain ⟨rfl, rfl⟩ := Prod.mk.inj (Except.pure_ok_iff.mp h)
  exact ⟨Backend.resolve_eq_ok (Except.mapError_ok_iff.mp hbackend), Kind.resolve_eq_ok hkind⟩

end Tracepoint
