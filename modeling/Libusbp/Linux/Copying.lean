import Libusbp.CopyContract
import Libusbp.Linux.GenericInterface
import Libusbp.Linux.SerialPort

/-!
# Copies on Linux

A generic interface is copied by a function that drops the error of its steps: if a request for memory
is denied, it returns no error and no copy.
-/

namespace Libusbp.Linux

open Prog Host

/-- The devices are the same to every function that asks one. -/
structure DeviceAlike (a b : Box Device) : Prop where
  content : content a = content b
  vendorId : AnswersAlike deviceGetVendorId a b
  productId : AnswersAlike deviceGetProductId a b
  revision : AnswersAlike deviceGetRevision a b
  serialNumber : AnswersAlike deviceGetSerialNumber a b
  osId : AnswersAlike deviceGetOsId a b

/-- The generic interfaces are the same to every function that asks one. -/
structure GenericInterfaceAlike (a b : Box GenericInterface) : Prop where
  content : content a = content b
  osId : AnswersAlike genericInterfaceGetOsId a b
  osFilename : AnswersAlike genericInterfaceGetOsFilename a b

/-- The serial ports are the same to every function that asks one. -/
structure SerialPortAlike (a b : Box SerialPort) : Prop where
  content : content a = content b
  name : AnswersAlike serialPortGetName a b

/-- The number of requests for memory of `libusbp_generic_interface_copy`. -/
def GenericInterface.copyRequests (gi : GenericInterface) : Nat :=
  1 + (gi.device.elim 0 (·.val.copyRequests) + (1 + (1 + (0 + 0))))

variable {m : Holdings RefKind} {d : Nat} {s s' : System}

lemma deviceAlike {a b : Box Device} (same : content a = content b) : DeviceAlike a b where
  content := same
  vendorId output := (deviceGetters_congr same output).1
  productId output := (deviceGetters_congr same output).2.1
  revision output := (deviceGetters_congr same output).2.2.1
  serialNumber output := (deviceGetters_congr same output).2.2.2.1
  osId output := (deviceGetters_congr same output).2.2.2.2

lemma genericInterfaceAlike {a b : Box GenericInterface} (same : content a = content b) :
    GenericInterfaceAlike a b := by
  have syspath : text a.val.syspath = text b.val.syspath :=
    congrArg GenericInterfaceView.syspath same
  have filename : text a.val.filename = text b.val.filename :=
    congrArg GenericInterfaceView.filename same
  have there (x y : Option (Box String)) (texts : text x = text y) : x.isSome = y.isSome := by
    have both := congrArg Option.isSome texts
    rwa [text, text, Option.isSome_map, Option.isSome_map] at both
  exact {
    content := same
    osId := getString_alike (by simp only [syspath, there _ _ syspath])
    osFilename := getString_alike (by simp only [filename, there _ _ filename]) }

lemma serialPortAlike {a b : Box SerialPort} (same : content a = content b) :
    SerialPortAlike a b where
  content := same
  name := getString_alike (congrArg stringCopy (congrArg SerialPortView.portName same))

/-- A device that was created has a syspath. -/
lemma deviceCreate_built {dev : UdevDevice} {device : Box Device}
    (created : HandsOut (deviceCreate dev) device) : (content device).Built := by
  obtain ⟨m, s, s', own, run⟩ := created
  have ended := (deviceCreate_ends ⟨own, rfl⟩ dev).elim run
  cases outcome : dev.info.deviceOutcome with
  | error v =>
    rw [outcome] at ended
    cases ended.1
  | ok view =>
    rw [outcome] at ended
    cases ended.1
    exact dev.info.deviceOutcome_built outcome

/-- So has a copy that was made without an error. -/
lemma deviceCopy_none {source : Box Device} {x : Option (Box Device)}
    (run : deviceCopy (some source) true s = .ok ((none, x), s')) :
    ∃ device, x = some device ∧ (content device).Built := by
  rw [deviceCopy, if_neg Bool.noConfusion] at run
  obtain ⟨l, t, rest, there⟩ := construct_none run
  obtain ⟨x, s₁, made, rest⟩ := stages_into_none rest
  obtain ⟨newDevice, rfl, _⟩ := allocate_none made
  obtain ⟨x, s₂, copied, rest⟩ := stages_into_none rest
  obtain ⟨syspath, rfl, _⟩ := stringCopy_none copied
  obtain ⟨serialNumber, s₃, _, rest⟩ := stages_into_none rest
  rcases stages_ok rest with ⟨e, l', ⟨⟩, _⟩ | ⟨l', s₄, assembled, rest⟩
  cases assembled
  cases rest
  exact ⟨_, there, Option.some_ne_none _⟩

/-- A devnode that was copied without an error is there. -/
lemma devnodeCopy_none {syspath : Option String} {created : Bool} {lookup : Option UdevInfo}
    {x : Option (Box String)}
    (run : udevwGetDevnodeCopyFromSyspath syspath created lookup s = .ok ((none, x), s')) :
    ∃ devnode, x = some devnode := by
  obtain ⟨_, t, _, run⟩ := bind_ok run
  obtain ⟨l, t', rest, there⟩ := construct_none run
  obtain ⟨context, s₁, _, rest⟩ := stages_into_none rest
  obtain ⟨device, s₂, _, rest⟩ := stages_into_none rest
  obtain ⟨devnode, s₃, copied, rest⟩ := stages_into_none rest
  cases rest
  obtain ⟨_, _, _, copied⟩ := bind_ok copied
  obtain ⟨⟨_ | e, tmp⟩, _, _, copied⟩ := bind_ok copied
  · obtain ⟨b, rfl, _⟩ := stringCopy_none copied
    exact ⟨b, there⟩
  · cases copied

/-- A generic interface that was created has a device with a syspath, and its two strings. -/
lemma genericInterfaceCreate_built {device : Option (Box Device)} {interfaceNumber : UInt8}
    {composite : Bool} {os : GenericInterfaceAnswers} {gi : Box GenericInterface}
    (run : genericInterfaceCreate device interfaceNumber composite true os s =
      .ok ((none, some gi), s')) : (content gi).Built := by
  cases device with
  | none =>
    obtain ⟨error, t, _, rest⟩ := bind_ok run
    cases rest
  | some device =>
    rw [genericInterfaceCreate, if_neg Bool.noConfusion] at run
    obtain ⟨⟨error, l⟩, t, rest, run⟩ := bind_ok run
    obtain ⟨error', t', context, run⟩ := bind_ok run
    obtain ⟨_, t'', _, run⟩ := bind_ok run
    obtain ⟨rfl, there⟩ : error' = none ∧ l.gi = some gi :=
      Prod.ext_iff.mp (congrArg Prod.fst (Except.ok.inj run))
    obtain rfl := addContext_none context
    -- without an error every step went through, so the outputs are not null
    obtain ⟨x, s₁, made, rest⟩ := stages_into_none rest
    obtain ⟨newGi, rfl, _⟩ := allocate_none made
    obtain ⟨x, s₂, copied, rest⟩ := stages_into_none rest
    obtain ⟨newDevice, rfl, built⟩ := deviceCopy_none copied
    obtain ⟨newDeviceSyspath, s₃, _, rest⟩ := stages_into_none rest
    obtain ⟨newUdev, s₄, _, rest⟩ := stages_into_none rest
    obtain ⟨newDev, s₅, _, rest⟩ := stages_into_none rest
    obtain ⟨s₆, _, rest⟩ := stages_checking_none rest
    obtain ⟨x, s₇, copied, rest⟩ := stages_into_none rest
    obtain ⟨_, _, _, copied⟩ := bind_ok copied
    obtain ⟨newInterfaceSyspath, rfl, _⟩ := stringCopy_none copied
    obtain ⟨x, s₈, copied, rest⟩ := stages_into_none rest
    obtain ⟨newFilename, rfl⟩ := devnodeCopy_none copied
    obtain ⟨s₉, _, rest⟩ := stages_checking_none rest
    rcases stages_ok rest with ⟨e, l', ⟨⟩, _⟩ | ⟨l', s₁₀, assembled, rest⟩
    cases assembled
    cases rest
    cases there
    exact ⟨⟨_, rfl, built⟩, Option.some_ne_none _, Option.some_ne_none _⟩

lemma GenericInterfaceCopyVars.assemble_requests {source : GenericInterface}
    (l : GenericInterfaceCopyVars) : Requests 0 (l.assemble source) :=
  .expect fun _ _ => .done

lemma genericInterfaceCopySteps_requests (source : GenericInterface) :
    Requests source.copyRequests (stages (genericInterfaceCopySteps source) {}) := by
  refine Requests.stagesInto (fun _ => allocate_requests) (fun _ => ?_) _
  refine Requests.stagesInto (fun _ => ?_) (fun _ => ?_) _
  · cases source.device with
    | none => exact .done
    | some device => exact deviceCopy_requests
  refine Requests.stagesInto (fun _ => stringCopy_requests) (fun _ => ?_) _
  refine Requests.stagesInto (fun _ => stringCopy_requests) (fun _ => ?_) _
  exact Requests.stages GenericInterfaceCopyVars.assemble_requests (fun _ => .done) _

/-- The function never returns an error. There is a copy exactly if all requests are granted, and
otherwise nothing is left. -/
lemma genericInterfaceCopy_returns (own : Holding m d s) {source : Box GenericInterface}
    (built : (content source).Built) :
    wp (genericInterfaceCopy (some source) true) (fun r s' => match r with
      | (none, none) => ¬s.heap.Grants source.val.copyRequests ∧ s'.Owns m
      | (none, some copy) => s.heap.Grants source.val.copyRequests ∧
        content source = content copy ∧ Holding (m + owned copy) d s'
      | (some _, _) => False) s := by
  simp only [genericInterfaceCopy, Bool.true_eq_false, if_false, wp_bind]
  apply wp_mono (genericInterfaceCopySteps_staged own built).run
  rintro ⟨_ | e, l⟩ s₁ ⟨staged, run⟩
  · obtain ⟨said, own₁⟩ := staged
    have granted := ((genericInterfaceCopySteps_requests source.val).ok run).1
    cases dest : l.dest with
    | none =>
      simp only [dest] at said
      cases said
    | some copy =>
      simp only [dest] at said own₁
      have own₁ : Holding (m + owned copy + owned l.newGi + owned l.newDevice + owned l.newSyspath +
          owned l.newFilename) d s₁ :=
        own₁.of_eq (by simp only [GenericInterfaceCopyVars.others, owned_some]; abel)
      apply stringFree_givesBack.wp own₁
      intro s₂ own₂
      apply stringFree_givesBack.wp own₂
      intro s₃ own₃
      apply deviceFree_givesBack.wp own₃
      intro s₄ own₄
      apply (GivesBack.free (b := l.newGi)).wp own₄
      intro s₅ own₅
      rw [wp_pure]
      exact ⟨granted, Option.some.inj (Except.ok.inj said), own₅⟩
  · -- an error of a step is lost, and only the missing copy tells of it
    obtain ⟨null, raised⟩ := staged
    obtain ⟨rfl, denied⟩ := (genericInterfaceCopySteps_requests source.val).error run
    have raised : Raised (m + owned l.newGi + owned l.newDevice + owned l.newSyspath +
        owned l.newFilename) d _ errorNoMemory s₁ :=
      raised.of_eq (by simp only [GenericInterfaceCopyVars.others]; abel)
    apply stringFree_givesBack.wp_raised raised
    intro s₂ raised
    apply stringFree_givesBack.wp_raised raised
    intro s₃ raised
    apply deviceFree_givesBack.wp_raised raised
    intro s₄ raised
    apply (GivesBack.free (b := l.newGi)).wp_raised raised
    intro s₅ raised
    rw [wp_pure, show l.dest = none from null]
    exact ⟨denied, raised.owns.of_eq (add_zero m)⟩

/-- Devices are copied as they should. -/
lemma deviceCopy_keeps : KeepsExactly deviceCopy DeviceAlike
    (fun a => ∃ dev, HandsOut (deviceCreate dev) a) fun _ _ => True := by
  apply keepsExactly_of_ends rfl
  · rintro m d s a own ⟨dev, created⟩
    apply deviceCopy_ends own
    rintro _ ⟨⟩
    exact deviceCreate_built created
  · exact fun a b => deviceAlike

/-- Generic interfaces are copied as they should exactly if all requests for memory are granted. -/
lemma genericInterfaceCopy_keeps : KeepsExactly genericInterfaceCopy GenericInterfaceAlike
    (fun a => ∃ device interfaceNumber composite os,
      HandsOut (genericInterfaceCreate device interfaceNumber composite true os) a)
    fun s a => s.heap.Grants a.val.copyRequests := by
  apply keepsExactly_of rfl
  rintro m s a own ⟨device, interfaceNumber, composite, os, _, _, _, _, created⟩
  have built := genericInterfaceCreate_built created
  have returns := genericInterfaceCopy_returns ⟨own, rfl⟩ built
  constructor
  · intro kept
    obtain ⟨⟨_ | e, _ | copy⟩, s', _, contract, returned⟩ := kept.and returns
    · exact absurd (contract.complete.mp rfl) id
    · exact returned.1
    · exact returned.elim
    · exact returned.elim
  · intro granted
    apply wp_mono returns
    rintro ⟨_ | e, _ | copy⟩ s' returned
    · exact absurd granted returned.1
    · obtain ⟨_, same, own'⟩ := returned
      have ends : Ends (m + owned a) s.denials (Except.map some (.ok (content a)))
          (none, some copy) s' := ⟨congrArg (Except.ok ∘ some) same, own'⟩
      exact ends.copyContract fun _ => genericInterfaceAlike
    · exact returned.elim
    · exact returned.elim

/-- Serial ports are copied as they should. -/
lemma serialPortCopy_keeps : KeepsExactly serialPortCopy SerialPortAlike
    (fun a => ∃ device interfaceNumber composite os,
      HandsOut (serialPortCreate device interfaceNumber composite true os) a) fun _ _ => True := by
  apply keepsExactly_of_ends rfl
  · rintro m d s a own ⟨device, interfaceNumber, composite, os, _, _, _, _, created⟩
    exact serialPortCopy_ends own (serialPortCreate_built created)
  · exact fun a b => serialPortAlike

end Libusbp.Linux
