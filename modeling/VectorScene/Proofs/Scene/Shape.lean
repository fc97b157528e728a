import VectorScene.Proofs.Run
import VectorScene.Scene.Shape

/-!
# Related shapes

A traversal of a shape relates its fields with those of the result, one by one.
All that is known of single fields carries over to shapes in this way.
-/

namespace VectorScene

namespace Kind

theorem mem_all (kind : Kind) : kind ∈ all := by
  cases kind <;> decide

theorem tag_injective {first second : Kind} (same : first.tag = second.tag) : first = second := by
  revert same
  cases first <;> cases second <;> decide

/-- The kind of the elements with a tag. -/
def ofTag? (tag : String) : Option Kind :=
  all.find? fun kind => kind.tag = tag

theorem ofTag?_eq_some {tag : String} {kind : Kind} : ofTag? tag = some kind ↔ kind.tag = tag := by
  constructor
  · intro found
    have same := List.find?_some (p := fun kind : Kind => decide (kind.tag = tag)) found
    exact of_decide_eq_true same
  · rintro rfl
    cases kind <;> decide

end Kind

namespace Shape

variable {σ σ' σ'' ν ν' ν'' κ κ' κ'' ε : Type}

/-- Two shapes of one kind whose fields are related.  A scalar goes with its axis. -/
inductive Related (scalar : Axis → σ → σ' → Prop) (vertices : ν → ν' → Prop)
    (color : κ → κ' → Prop) : Shape σ ν κ → Shape σ' ν' κ' → Prop
  | line {x1 y1 x2 y2 c x1' y1' x2' y2' c'} :
      scalar .x x1 x1' → scalar .y y1 y1' → scalar .x x2 x2' → scalar .y y2 y2' → color c c' →
      Related scalar vertices color (.line x1 y1 x2 y2 c) (.line x1' y1' x2' y2' c')
  | circle {cx cy r c cx' cy' r' c'} :
      scalar .x cx cx' → scalar .y cy cy' → scalar .x r r' → color c c' →
      Related scalar vertices color (.circle cx cy r c) (.circle cx' cy' r' c')
  | rect {x y width height c x' y' width' height' c'} :
      scalar .x x x' → scalar .y y y' → scalar .x width width' → scalar .y height height' →
      color c c' →
      Related scalar vertices color (.rect x y width height c) (.rect x' y' width' height' c')
  | polygon {points c points' c'} :
      vertices points points' → color c c' →
      Related scalar vertices color (.polygon points c) (.polygon points' c')
  | ellipse {cx cy rx ry c cx' cy' rx' ry' c'} :
      scalar .x cx cx' → scalar .y cy cy' → scalar .x rx rx' → scalar .y ry ry' → color c c' →
      Related scalar vertices color (.ellipse cx cy rx ry c) (.ellipse cx' cy' rx' ry' c')

/-- The scalar fields of a shape in order. -/
def scalars : Shape σ ν κ → List σ
  | .line x1 y1 x2 y2 _ => [x1, y1, x2, y2]
  | .circle cx cy r _ => [cx, cy, r]
  | .rect x y width height _ => [x, y, width, height]
  | .polygon _ _ => []
  | .ellipse cx cy rx ry _ => [cx, cy, rx, ry]

/-- The vertices of a shape, if it has any. -/
def vertices? : Shape σ ν κ → Option ν
  | .polygon points _ => some points
  | _ => none

/-- A traversal has a result exactly when all fields have, and these are its
fields. -/
theorem mapM_eq_ok {scalar : Axis → σ → Except ε σ'} {vertices : ν → Except ε ν'}
    {color : κ → Except ε κ'} {shape : Shape σ ν κ} {result : Shape σ' ν' κ'} :
    shape.mapM scalar vertices color = .ok result ↔
      Related (fun axis value image => scalar axis value = .ok image)
        (fun points images => vertices points = .ok images)
        (fun value image => color value = .ok image) shape result := by
  constructor
  · intro mapped
    cases shape with
    | line x1 y1 x2 y2 c =>
        simp only [mapM, bind_eq_ok, pure_eq_ok] at mapped
        obtain ⟨_, x1, _, y1, _, x2, _, y2, _, color, rfl⟩ := mapped
        exact .line x1 y1 x2 y2 color
    | circle cx cy r c =>
        simp only [mapM, bind_eq_ok, pure_eq_ok] at mapped
        obtain ⟨_, cx, _, cy, _, r, _, color, rfl⟩ := mapped
        exact .circle cx cy r color
    | rect x y width height c =>
        simp only [mapM, bind_eq_ok, pure_eq_ok] at mapped
        obtain ⟨_, x, _, y, _, width, _, height, _, color, rfl⟩ := mapped
        exact .rect x y width height color
    | polygon points c =>
        simp only [mapM, bind_eq_ok, pure_eq_ok] at mapped
        obtain ⟨_, points, _, color, rfl⟩ := mapped
        exact .polygon points color
    | ellipse cx cy rx ry c =>
        simp only [mapM, bind_eq_ok, pure_eq_ok] at mapped
        obtain ⟨_, cx, _, cy, _, rx, _, ry, _, color, rfl⟩ := mapped
        exact .ellipse cx cy rx ry color
  · intro related
    cases related with
    | line x1 y1 x2 y2 color => rw [mapM, x1, y1, x2, y2, color]; rfl
    | circle cx cy r color => rw [mapM, cx, cy, r, color]; rfl
    | rect x y width height color => rw [mapM, x, y, width, height, color]; rfl
    | polygon points color => rw [mapM, points, color]; rfl
    | ellipse cx cy rx ry color => rw [mapM, cx, cy, rx, ry, color]; rfl

/-- A traversal that fails does so with the fault of a scalar, of the vertices or of the
color. -/
theorem exists_of_mapM_eq_error {scalar : Axis → σ → Except ε σ'} {vertices : ν → Except ε ν'}
    {color : κ → Except ε κ'} {shape : Shape σ ν κ} {fault : ε}
    (failed : shape.mapM scalar vertices color = .error fault) :
    (∃ axis, ∃ value ∈ shape.scalars, scalar axis value = .error fault) ∨
      (∃ points ∈ shape.vertices?, vertices points = .error fault) ∨
        color shape.color = .error fault := by
  cases shape with
  | line x1 y1 x2 y2 c =>
      simp only [mapM, bind_eq_error, pure_ne_error, and_false, exists_false, or_false] at failed
      rcases failed with x1 | ⟨_, _, y1 | ⟨_, _, x2 | ⟨_, _, y2 | ⟨_, _, color⟩⟩⟩⟩
      · exact .inl ⟨.x, _, by simp [scalars], x1⟩
      · exact .inl ⟨.y, _, by simp [scalars], y1⟩
      · exact .inl ⟨.x, _, by simp [scalars], x2⟩
      · exact .inl ⟨.y, _, by simp [scalars], y2⟩
      · exact .inr (.inr color)
  | circle cx cy r c =>
      simp only [mapM, bind_eq_error, pure_ne_error, and_false, exists_false, or_false] at failed
      rcases failed with cx | ⟨_, _, cy | ⟨_, _, r | ⟨_, _, color⟩⟩⟩
      · exact .inl ⟨.x, _, by simp [scalars], cx⟩
      · exact .inl ⟨.y, _, by simp [scalars], cy⟩
      · exact .inl ⟨.x, _, by simp [scalars], r⟩
      · exact .inr (.inr color)
  | rect x y width height c =>
      simp only [mapM, bind_eq_error, pure_ne_error, and_false, exists_false, or_false] at failed
      rcases failed with x | ⟨_, _, y | ⟨_, _, width | ⟨_, _, height | ⟨_, _, color⟩⟩⟩⟩
      · exact .inl ⟨.x, _, by simp [scalars], x⟩
      · exact .inl ⟨.y, _, by simp [scalars], y⟩
      · exact .inl ⟨.x, _, by simp [scalars], width⟩
      · exact .inl ⟨.y, _, by simp [scalars], height⟩
      · exact .inr (.inr color)
  | polygon points c =>
      simp only [mapM, bind_eq_error, pure_ne_error, and_false, exists_false, or_false] at failed
      rcases failed with points | ⟨_, _, color⟩
      · exact .inr (.inl ⟨_, rfl, points⟩)
      · exact .inr (.inr color)
  | ellipse cx cy rx ry c =>
      simp only [mapM, bind_eq_error, pure_ne_error, and_false, exists_false, or_false] at failed
      rcases failed with cx | ⟨_, _, cy | ⟨_, _, rx | ⟨_, _, ry | ⟨_, _, color⟩⟩⟩⟩
      · exact .inl ⟨.x, _, by simp [scalars], cx⟩
      · exact .inl ⟨.y, _, by simp [scalars], cy⟩
      · exact .inl ⟨.x, _, by simp [scalars], rx⟩
      · exact .inl ⟨.y, _, by simp [scalars], ry⟩
      · exact .inr (.inr color)

variable {scalar : Axis → σ → σ' → Prop} {vertices : ν → ν' → Prop} {color : κ → κ' → Prop}

theorem Related.kind_eq {first : Shape σ ν κ} {second : Shape σ' ν' κ'}
    (related : Related scalar vertices color first second) : first.kind = second.kind := by
  cases related <;> rfl

/-- The scalars of related shapes are related one by one. -/
theorem Related.forall₂_scalars {first : Shape σ ν κ} {second : Shape σ' ν' κ'}
    (related : Related scalar vertices color first second) :
    List.Forall₂ (fun value image => ∃ axis, scalar axis value image)
      first.scalars second.scalars := by
  cases related with
  | line x1 y1 x2 y2 _ => exact .cons ⟨_, x1⟩ (.cons ⟨_, y1⟩ (.cons ⟨_, x2⟩ (.cons ⟨_, y2⟩ .nil)))
  | circle cx cy r _ => exact .cons ⟨_, cx⟩ (.cons ⟨_, cy⟩ (.cons ⟨_, r⟩ .nil))
  | rect x y width height _ =>
      exact .cons ⟨_, x⟩ (.cons ⟨_, y⟩ (.cons ⟨_, width⟩ (.cons ⟨_, height⟩ .nil)))
  | polygon _ _ => exact .nil
  | ellipse cx cy rx ry _ =>
      exact .cons ⟨_, cx⟩ (.cons ⟨_, cy⟩ (.cons ⟨_, rx⟩ (.cons ⟨_, ry⟩ .nil)))

/-- What all images of scalars have in common holds of the scalars of the second
shape. -/
theorem Related.forall_scalars {known : σ' → Prop} {first : Shape σ ν κ} {second : Shape σ' ν' κ'}
    (related : Related scalar vertices color first second)
    (follows : ∀ axis x y, scalar axis x y → known y) : ∀ value ∈ second.scalars, known value :=
  forall_right related.forall₂_scalars fun value image ⟨axis, maps⟩ => follows axis value image maps

theorem Related.exists_vertices {first : Shape σ ν κ} {second : Shape σ' ν' κ'}
    (related : Related scalar vertices color first second) {points : ν}
    (member : points ∈ first.vertices?) : ∃ images ∈ second.vertices?, vertices points images := by
  cases related with
  | polygon maps _ =>
      cases member
      exact ⟨_, rfl, maps⟩
  | _ => cases member

theorem Related.color_related {first : Shape σ ν κ} {second : Shape σ' ν' κ'}
    (related : Related scalar vertices color first second) : color first.color second.color := by
  cases related <;> assumption

theorem Related.refl (shape : Shape σ ν κ) : Related (fun _ => Eq) Eq Eq shape shape := by
  cases shape <;> constructor <;> rfl

theorem Related.symm {first : Shape σ ν κ} {second : Shape σ' ν' κ'}
    (related : Related scalar vertices color first second) :
    Related (fun axis => flip (scalar axis)) (flip vertices) (flip color) second first := by
  cases related with
  | line x1 y1 x2 y2 color => exact .line x1 y1 x2 y2 color
  | circle cx cy r color => exact .circle cx cy r color
  | rect x y width height color => exact .rect x y width height color
  | polygon points color => exact .polygon points color
  | ellipse cx cy rx ry color => exact .ellipse cx cy rx ry color

/-- Relations of fields that lie behind each other give one of shapes. -/
theorem Related.trans {scalar' : Axis → σ' → σ'' → Prop} {vertices' : ν' → ν'' → Prop}
    {color' : κ' → κ'' → Prop} {scalar'' : Axis → σ → σ'' → Prop} {vertices'' : ν → ν'' → Prop}
    {color'' : κ → κ'' → Prop} {first : Shape σ ν κ} {second : Shape σ' ν' κ'}
    {third : Shape σ'' ν'' κ''} (related : Related scalar vertices color first second)
    (further : Related scalar' vertices' color' second third)
    (onScalars : ∀ axis x y, ∀ z ∈ third.scalars, scalar axis x y → scalar' axis y z →
      scalar'' axis x z)
    (onVertices : ∀ x y z, vertices x y → vertices' y z → vertices'' x z)
    (onColor : ∀ x y z, color x y → color' y z → color'' x z) :
    Related scalar'' vertices'' color'' first third := by
  cases related with
  | line x1 y1 x2 y2 color =>
      cases further with
      | line x1' y1' x2' y2' color' =>
          exact .line (onScalars _ _ _ _ (by simp [scalars]) x1 x1')
            (onScalars _ _ _ _ (by simp [scalars]) y1 y1')
            (onScalars _ _ _ _ (by simp [scalars]) x2 x2')
            (onScalars _ _ _ _ (by simp [scalars]) y2 y2')
            (onColor _ _ _ color color')
  | circle cx cy r color =>
      cases further with
      | circle cx' cy' r' color' =>
          exact .circle (onScalars _ _ _ _ (by simp [scalars]) cx cx')
            (onScalars _ _ _ _ (by simp [scalars]) cy cy')
            (onScalars _ _ _ _ (by simp [scalars]) r r')
            (onColor _ _ _ color color')
  | rect x y width height color =>
      cases further with
      | rect x' y' width' height' color' =>
          exact .rect (onScalars _ _ _ _ (by simp [scalars]) x x')
            (onScalars _ _ _ _ (by simp [scalars]) y y')
            (onScalars _ _ _ _ (by simp [scalars]) width width')
            (onScalars _ _ _ _ (by simp [scalars]) height height')
            (onColor _ _ _ color color')
  | polygon points color =>
      cases further with
      | polygon points' color' =>
          exact .polygon (onVertices _ _ _ points points') (onColor _ _ _ color color')
  | ellipse cx cy rx ry color =>
      cases further with
      | ellipse cx' cy' rx' ry' color' =>
          exact .ellipse (onScalars _ _ _ _ (by simp [scalars]) cx cx')
            (onScalars _ _ _ _ (by simp [scalars]) cy cy')
            (onScalars _ _ _ _ (by simp [scalars]) rx rx')
            (onScalars _ _ _ _ (by simp [scalars]) ry ry')
            (onColor _ _ _ color color')

/-- When all fields of the second shape have images, it is related to a third one. -/
theorem Related.exists_next {scalar' : Axis → σ' → σ'' → Prop} {vertices' : ν' → ν'' → Prop}
    {color' : κ' → κ'' → Prop} {first : Shape σ ν κ} {second : Shape σ' ν' κ'}
    (related : Related scalar vertices color first second)
    (onScalars : ∀ axis x y, scalar axis x y → ∃ z, scalar' axis y z)
    (onVertices : ∀ x y, vertices x y → ∃ z, vertices' y z)
    (onColor : ∀ x y, color x y → ∃ z, color' y z) :
    ∃ third, Related scalar' vertices' color' second third := by
  obtain ⟨_, color⟩ := onColor _ _ related.color_related
  cases related with
  | line x1 y1 x2 y2 _ =>
      obtain ⟨_, x1⟩ := onScalars _ _ _ x1
      obtain ⟨_, y1⟩ := onScalars _ _ _ y1
      obtain ⟨_, x2⟩ := onScalars _ _ _ x2
      obtain ⟨_, y2⟩ := onScalars _ _ _ y2
      exact ⟨_, .line x1 y1 x2 y2 color⟩
  | circle cx cy r _ =>
      obtain ⟨_, cx⟩ := onScalars _ _ _ cx
      obtain ⟨_, cy⟩ := onScalars _ _ _ cy
      obtain ⟨_, r⟩ := onScalars _ _ _ r
      exact ⟨_, .circle cx cy r color⟩
  | rect x y width height _ =>
      obtain ⟨_, x⟩ := onScalars _ _ _ x
      obtain ⟨_, y⟩ := onScalars _ _ _ y
      obtain ⟨_, width⟩ := onScalars _ _ _ width
      obtain ⟨_, height⟩ := onScalars _ _ _ height
      exact ⟨_, .rect x y width height color⟩
  | polygon points _ =>
      obtain ⟨_, points⟩ := onVertices _ _ points
      exact ⟨_, .polygon points color⟩
  | ellipse cx cy rx ry _ =>
      obtain ⟨_, cx⟩ := onScalars _ _ _ cx
      obtain ⟨_, cy⟩ := onScalars _ _ _ cy
      obtain ⟨_, rx⟩ := onScalars _ _ _ rx
      obtain ⟨_, ry⟩ := onScalars _ _ _ ry
      exact ⟨_, .ellipse cx cy rx ry color⟩

end Shape

end VectorScene
