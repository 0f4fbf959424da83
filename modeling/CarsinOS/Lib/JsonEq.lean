import CarsinOS.Lib.Json

/-! Equality of JSON trees is decidable. -/
namespace CarsinOS.Lib.Json

mutual
def decEq : (t u : Json) → Decidable (t = u)
  | .null, u =>
    match u with
    | .null => isTrue rfl
    | .bool _ | .num _ | .str _ | .arr _ | .obj _ => isFalse nofun
  | .bool b, u =>
    match u with
    | .bool c => decidable_of_iff (b = c) (by simp)
    | .null | .num _ | .str _ | .arr _ | .obj _ => isFalse nofun
  | .num w, u =>
    match u with
    | .num v => decidable_of_iff (w = v) (by simp)
    | .null | .bool _ | .str _ | .arr _ | .obj _ => isFalse nofun
  | .str s, u =>
    match u with
    | .str r => decidable_of_iff (s = r) (by simp)
    | .null | .bool _ | .num _ | .arr _ | .obj _ => isFalse nofun
  | .arr ts, u =>
    match u with
    | .arr us =>
      match decEqItems ts us with
      | isTrue same => isTrue (congrArg arr same)
      | isFalse other => isFalse fun same => other (arr.inj same)
    | .null | .bool _ | .num _ | .str _ | .obj _ => isFalse nofun
  | .obj fs, u =>
    match u with
    | .obj gs =>
      match decEqFields fs gs with
      | isTrue same => isTrue (congrArg obj same)
      | isFalse other => isFalse fun same => other (obj.inj same)
    | .null | .bool _ | .num _ | .str _ | .arr _ => isFalse nofun

def decEqItems : (ts us : List Json) → Decidable (ts = us)
  | [], [] => isTrue rfl
  | [], _ :: _ => isFalse nofun
  | _ :: _, [] => isFalse nofun
  | t :: ts, u :: us =>
    match decEq t u, decEqItems ts us with
    | isTrue head, isTrue tail => isTrue (by rw [head, tail])
    | isFalse head, _ => isFalse fun same => head (List.cons.inj same).1
    | _, isFalse tail => isFalse fun same => tail (List.cons.inj same).2

def decEqFields : (fs gs : List (List Char × Json)) → Decidable (fs = gs)
  | [], [] => isTrue rfl
  | [], _ :: _ => isFalse nofun
  | _ :: _, [] => isFalse nofun
  | (k, t) :: fs, (l, u) :: gs =>
    match (inferInstance : Decidable (k = l)), decEq t u, decEqFields fs gs with
    | isTrue key, isTrue head, isTrue tail => isTrue (by rw [key, head, tail])
    | isFalse key, _, _ => isFalse fun same => key (congrArg Prod.fst (List.cons.inj same).1)
    | _, isFalse head, _ => isFalse fun same => head (congrArg Prod.snd (List.cons.inj same).1)
    | _, _, isFalse tail => isFalse fun same => tail (List.cons.inj same).2
end

instance : DecidableEq Json := decEq

end CarsinOS.Lib.Json
