import AgentCanvas.Proofs.Scene.FiniteNumbers

set_option autoImplicit false

namespace AgentCanvas

open Json

namespace Json.Fields

/-- Two patches as one: the keys of both, and where both set a key the value of the second. -/
def andThen (first second : Fields) : Fields :=
  (overlay [] first).overlay second

theorem last?_andThen (first second : Fields) (key : String) :
    (first.andThen second).last? key = (second.last? key).or (first.last? key) := by
  have hnodup := ((ascending_nil.overlay first).overlay second).nodup
  have hnil : get? [] key = none := rfl
  rw [andThen, last?_eq_get? hnodup, get?_overlay_last?, get?_overlay_last?, hnil, Option.or_none]

def Apart (first second : Fields) : Prop :=
  (first.map Prod.fst).Disjoint (second.map Prod.fst)

variable {first second : Fields}

theorem Apart.symm (h : first.Apart second) : second.Apart first :=
  List.disjoint_symm h

theorem Apart.last?_eq_none (h : first.Apart second) {key : String} {value : Value}
    (hset : first.last? key = some value) : second.last? key = none :=
  last?_eq_none_of_not_mem (h (List.mem_map_of_mem (mem_of_last? hset)))

theorem Apart.last?_andThen_comm (h : first.Apart second) (key : String) :
    (first.andThen second).last? key = (second.andThen first).last? key := by
  rw [last?_andThen, last?_andThen]
  cases hset : first.last? key with
  | some value => rw [h.last?_eq_none hset, Option.none_or, Option.or_none]
  | none => rw [Option.or_none, Option.none_or]

end Json.Fields

namespace ElementProps

variable {p q r : ElementProps} {first second : Fields}

/-- A field reads alike under the second patch and under both as one, if what the first patch made
    of it was written in between. -/
theorem contentIn_patched_andThen {slot : Slot} {content : Slot.Content} (hkind : q.kind = p.kind)
    (hslot : slot ∈ p.kind.allSlots .ofArray) (hread : slot.contentIn (p.patched first) = .ok content)
    (hholds : slot.type.Holds content) (hwritten : q.fields.get? slot.key = content.json?)
    (hfinite : content.IsFinite) :
    slot.contentIn (q.patched second) = slot.contentIn (p.patched (first.andThen second)) := by
  have hboth := Fields.last?_andThen first second slot.key
  cases hset : second.last? slot.key with
  | some value =>
    rw [hset, Option.some_or] at hboth
    rw [contentIn_patched_set (hkind ▸ hslot) hset, contentIn_patched_set hslot hboth]
  | none =>
    rw [hset, Option.none_or] at hboth
    have hkept : (q.patched second).get? slot.key = q.fields.get? slot.key := by
      rw [get?_patched_slot (hkind ▸ hslot), hset, Option.none_or]
    have hfirst : (p.patched (first.andThen second)).get? slot.key =
        (p.patched first).get? slot.key := by
      rw [get?_patched_slot hslot, get?_patched_slot hslot, hboth]
    rw [Slot.contentIn_written hholds hfinite (hkept.trans hwritten), Slot.contentIn_congr hfirst,
      hread]

theorem merged_andThen (hfirst : first.IsFinite) (h : p.merged first = .ok q) :
    q.merged second = .ok r ↔ p.merged (first.andThen second) = .ok r := by
  obtain ⟨hkind, hread⟩ := merged_ok_iff.mp h
  have hwritten := written_finite (merged_isFinite hfirst h)
  rw [hkind] at hwritten
  have hboth := List.Forall₂.mp (fun _ _ hread hwritten => And.intro hread hwritten) hread hwritten
  rw [merged_ok_iff, merged_ok_iff, hkind]
  refine and_congr_right fun _ => forall₂_congr_of_mem fun slot hslot new => ?_
  obtain ⟨content, -, hread, -, hholds, hheld, hfinite⟩ := exists_of_mem hboth hslot
  rw [contentIn_patched_andThen hkind hslot hread hholds hheld hfinite]

theorem exists_merged_of_andThen (hp : ∀ x ∈ p.numbers, x.isFinite = true)
    (hapart : first.Apart second) (h : p.merged (first.andThen second) = .ok r) :
    ∃ q, p.merged first = .ok q := by
  obtain ⟨hfits, -⟩ := exists_merged_iff_fits.mp ⟨r, h⟩
  refine exists_merged_iff_fits.mpr ⟨?_, not_keepsUnwritable hp _⟩
  rintro ⟨slot, hslot, value, hset, hmisfit⟩
  have hboth : (first.andThen second).last? slot.key = some value := by
    rw [Fields.last?_andThen, hapart.last?_eq_none hset, hset, Option.none_or]
  exact hfits ⟨slot, hslot, value, hboth, hmisfit⟩

theorem merged_bind_iff (hp : ∀ x ∈ p.numbers, x.isFinite = true) (hfirst : first.IsFinite)
    (hapart : first.Apart second) :
    (p.merged first >>= fun q => q.merged second) = .ok r ↔
      p.merged (first.andThen second) = .ok r := by
  rw [bind_eq_ok]
  constructor
  · rintro ⟨q, hq, hr⟩
    exact (merged_andThen hfirst hq).mp hr
  · intro h
    obtain ⟨q, hq⟩ := exists_merged_of_andThen hp hapart h
    exact ⟨q, hq, (merged_andThen hfirst hq).mpr h⟩

theorem merged_bind_self (p : ElementProps) (patch : Fields) :
    (p.merged patch >>= fun q => q.merged patch) = p.merged patch := by
  cases h : p.merged patch with
  | error why => rfl
  | ok q => exact merged_again h

end ElementProps

/-- A patch that fits, and then a second one, come to the same as one patch with the keys of both, in
    which the values of the second win. A patch that is applied twice does what it does once. Two
    patches without a common key make the same of some properties in either order, or in both orders
    one of them is refused. The numbers of the properties and of a patch that is followed by another
    are finite, as those of a document are. -/
theorem patches_compose {p : ElementProps} (hp : ∀ x ∈ p.numbers, x.isFinite = true)
    {first : Fields} (hfirst : first.IsFinite) :
    (∀ second q r, p.merged first = .ok q →
      (q.merged second = .ok r ↔ p.merged (first.andThen second) = .ok r)) ∧
    (p.merged first >>= fun q => q.merged first) = p.merged first ∧
    ∀ second : Fields, second.IsFinite → first.Apart second → ∀ r,
      (p.merged first >>= fun q => q.merged second) = .ok r ↔
        (p.merged second >>= fun q => q.merged first) = .ok r := by
  refine ⟨fun second q r => ElementProps.merged_andThen hfirst, p.merged_bind_self first, ?_⟩
  intro second hsecond hapart r
  have hcomm : p.merged (first.andThen second) = p.merged (second.andThen first) :=
    ElementProps.merged_congr fun slot _ => hapart.last?_andThen_comm slot.key
  rw [ElementProps.merged_bind_iff hp hfirst hapart,
    ElementProps.merged_bind_iff hp hsecond hapart.symm, hcomm]

/-- A circle loses its segments and gets a radius, which a second patch sets anew. A third patch has
    other keys and may come before the first. -/
theorem circle_resized_and_painted :
    let p : ElementProps := .ofShape (.circle (.ofInt 1) (some (.ofInt 8)) true (.ofInt 1))
    let first : Fields :=
      [("radius", .number (.int 3)), ("segments", .null), ("type", .string "line")]
    let second : Fields := [("lineWidth", .number (.int 2)), ("radius", .number (.int 4))]
    let third : Fields := [("color", .string "#000000"), ("x", .null)]
    let resized : ElementProps := .ofShape (.circle (.ofInt 4) none true (.ofInt 2))
    let painted : ElementProps :=
      { ElementProps.ofShape (.circle (.ofInt 3) none true (.ofInt 1)) with color := "#000000" }
    (∀ x ∈ p.numbers, x.isFinite = true) ∧ first.IsFinite ∧ third.IsFinite ∧ first.Apart third ∧
      p.merged (first.andThen second) = .ok resized ∧
      (p.merged first >>= fun q => q.merged first) = p.merged first ∧
      (p.merged third >>= fun q => q.merged first) = .ok painted := by
  intro p first second third resized painted
  have hp : ∀ x ∈ p.numbers, x.isFinite = true :=
    List.all_eq_true.mp (by decide +kernel : p.numbers.all Double.isFinite = true)
  have hfirst : first.IsFinite := Value.isFinite_object_iff.mp <| parse_isFinite <|
    show parse "\x7b\"radius\":3,\"segments\":null,\"type\":\"line\"\x7d" = .ok (.object first) from
      eq_ok_of_toOption (by decide +kernel)
  have hthird : third.IsFinite := Value.isFinite_object_iff.mp <| parse_isFinite <|
    show parse "\x7b\"color\":\"#000000\",\"x\":null\x7d" = .ok (.object third) from
      eq_ok_of_toOption (by decide +kernel)
  have hapart : first.Apart third := by simp [Fields.Apart, first, third]
  obtain ⟨hcompose, htwice, horder⟩ := patches_compose hp hfirst
  let once : ElementProps := .ofShape (.circle (.ofInt 3) none true (.ofInt 1))
  have honce : p.merged first = .ok once := eq_ok_of_toOption (by decide +kernel)
  have hresized : once.merged second = .ok resized := eq_ok_of_toOption (by decide +kernel)
  have hpainted : (p.merged first >>= fun q => q.merged third) = .ok painted :=
    eq_ok_of_toOption (by decide +kernel)
  exact ⟨hp, hfirst, hthird, hapart, (hcompose second once resized honce).mp hresized, htwice,
    (horder third hthird hapart painted).mp hpainted⟩

end AgentCanvas
