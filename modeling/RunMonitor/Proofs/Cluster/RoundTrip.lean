import RunMonitor.Proofs.Cluster.Codec

namespace RunMonitor

/-! Objects that have been read can be stored, and lose at most the fractions of their times. -/

open Json

theorem OwnerReference.keeps : Keeps ofJson? toJson id := by
  intro json owner h
  simp only [ofJson?, Option.bind_eq_bind, Option.bind_eq_some_iff] at h
  obtain ⟨fields, -, apiVersion, hapiVersion, kind, hkind, name, hname, uid, huid, controller,
    hcontroller, blocks, hblocks, heq⟩ := h
  obtain rfl := Option.some.inj heq
  replace hapiVersion := keeps_str.orDefault (kept_str "") hapiVersion
  replace hkind := keeps_str.orDefault (kept_str "") hkind
  replace hname := keeps_str.orDefault (kept_str "") hname
  replace huid := keeps_str.orDefault (kept_str "") huid
  replace hcontroller := keeps_bool.optional hcontroller
  replace hblocks := keeps_bool.optional hblocks
  refine ⟨isPlain_present ⟨hapiVersion.ifAny.plain, hblocks.plain, hcontroller.plain,
    hkind.ifAny.plain, hname.ifAny.plain, huid.ifAny.plain, trivial⟩, nofun, ?_⟩
  rw [toJson, present, ofJson?, obj?, Option.bind_eq_bind, Option.bind_some,
    orDefault?_present "apiVersion" hapiVersion (by rfl), orDefault?_present "kind" hkind (by rfl),
    orDefault?_present "name" hname (by rfl), orDefault?_present "uid" huid (by rfl),
    optional?_present "controller" hcontroller (by rfl),
    optional?_present "blockOwnerDeletion" hblocks (by rfl)]
  simp

theorem Metadata.keeps : Keeps ofJson? toJson truncate := by
  intro json metadata h
  simp only [ofJson?, Option.bind_eq_bind, Option.bind_eq_some_iff] at h
  obtain ⟨fields, -, name, hname, stem, hstem, ns, hns, uid, huid, version, hversion, generation,
    hgeneration, created, hcreated, labels, hlabels, annotations, hannotations, owners, howners,
    heq⟩ := h
  obtain rfl := Option.some.inj heq
  replace hname := keeps_str.optional hname
  replace hstem := keeps_str.optional hstem
  replace hns := keeps_str.optional hns
  replace huid := keeps_str.optional huid
  replace hversion := keeps_str.optional hversion
  replace hgeneration := keeps_int64.optional hgeneration
  replace hcreated := keeps_instant.optional hcreated
  replace hlabels := keeps_str.mapOf.optional hlabels
  replace hannotations := keeps_str.mapOf.optional hannotations
  replace howners := OwnerReference.keeps.listOf.optional howners
  refine ⟨isPlain_present ⟨hannotations.plain, hcreated.plain, hstem.plain, hgeneration.plain,
    hlabels.plain, hname.plain, hns.plain, howners.plain, hversion.plain, huid.plain, trivial⟩,
    nofun, ?_⟩
  rw [toJson, present, ofJson?, obj?, Option.bind_eq_bind, Option.bind_some,
    optional?_present "name" hname (by rfl), optional?_present "generateName" hstem (by rfl),
    optional?_present "namespace" hns (by rfl), optional?_present "uid" huid (by rfl),
    optional?_present "resourceVersion" hversion (by rfl),
    optional?_present "generation" hgeneration (by rfl),
    optional?_present "creationTimestamp" hcreated (by rfl),
    optional?_present "labels" hlabels (by rfl),
    optional?_present "annotations" hannotations (by rfl),
    optional?_present "ownerReferences" howners (by rfl)]
  simp [truncate]

theorem Condition.keeps : Keeps ofJson? toJson truncate := by
  intro json condition h
  simp only [ofJson?, Option.bind_eq_bind, Option.bind_eq_some_iff] at h
  obtain ⟨fields, -, type, htype, status, hstatus, reason, hreason, message, hmessage, changed,
    hchanged, probed, hprobed, heq⟩ := h
  obtain rfl := Option.some.inj heq
  replace htype := keeps_str.orDefault (kept_str "") htype
  replace hstatus := keeps_str.orDefault (kept_str "") hstatus
  replace hreason := keeps_str.optional hreason
  replace hmessage := keeps_str.optional hmessage
  replace hchanged := keeps_instant.optional hchanged
  replace hprobed := keeps_instant.optional hprobed
  refine ⟨isPlain_present ⟨hprobed.plain, hchanged.plain, hmessage.plain, hreason.plain,
    hstatus.ifAny.plain, htype.ifAny.plain, trivial⟩, nofun, ?_⟩
  rw [toJson, present, ofJson?, obj?, Option.bind_eq_bind, Option.bind_some,
    orDefault?_present "type" htype (by rfl), orDefault?_present "status" hstatus (by rfl),
    optional?_present "reason" hreason (by rfl), optional?_present "message" hmessage (by rfl),
    optional?_present "lastTransitionTime" hchanged (by rfl),
    optional?_present "lastProbeTime" hprobed (by rfl)]
  simp [truncate]

theorem Waiting.keeps : Keeps ofJson? toJson id := by
  intro json waiting h
  simp only [ofJson?, Option.bind_eq_bind, Option.bind_eq_some_iff] at h
  obtain ⟨fields, -, reason, hreason, message, hmessage, heq⟩ := h
  obtain rfl := Option.some.inj heq
  replace hreason := keeps_str.optional hreason
  replace hmessage := keeps_str.optional hmessage
  refine ⟨isPlain_present ⟨hmessage.plain, hreason.plain, trivial⟩, nofun, ?_⟩
  rw [toJson, present, ofJson?, obj?, Option.bind_eq_bind, Option.bind_some,
    optional?_present "reason" hreason (by rfl), optional?_present "message" hmessage (by rfl)]
  simp

theorem Running.keeps : Keeps ofJson? toJson truncate := by
  intro json running h
  simp only [ofJson?, Option.bind_eq_bind, Option.bind_eq_some_iff] at h
  obtain ⟨fields, -, started, hstarted, heq⟩ := h
  obtain rfl := Option.some.inj heq
  replace hstarted := keeps_instant.optional hstarted
  refine ⟨isPlain_present ⟨hstarted.plain, trivial⟩, nofun, ?_⟩
  rw [toJson, present, ofJson?, obj?, Option.bind_eq_bind, Option.bind_some,
    optional?_present "startedAt" hstarted (by rfl)]
  simp [truncate]

theorem Terminated.keeps : Keeps ofJson? toJson truncate := by
  intro json terminated h
  simp only [ofJson?, Option.bind_eq_bind, Option.bind_eq_some_iff] at h
  obtain ⟨fields, -, code, hcode, reason, hreason, message, hmessage, signal, hsignal, started,
    hstarted, finished, hfinished, heq⟩ := h
  obtain rfl := Option.some.inj heq
  replace hcode := keeps_int32.orDefault ⟨rfl, nofun, rfl⟩ hcode
  replace hreason := keeps_str.optional hreason
  replace hmessage := keeps_str.optional hmessage
  replace hsignal := keeps_int32.optional hsignal
  replace hstarted := keeps_instant.optional hstarted
  replace hfinished := keeps_instant.optional hfinished
  refine ⟨isPlain_present ⟨hcode.ifAny.plain, hfinished.plain, hmessage.plain, hreason.plain,
    hsignal.plain, hstarted.plain, trivial⟩, nofun, ?_⟩
  rw [toJson, present, ofJson?, obj?, Option.bind_eq_bind, Option.bind_some,
    orDefault?_present "exitCode" hcode (by rfl), optional?_present "reason" hreason (by rfl),
    optional?_present "message" hmessage (by rfl), optional?_present "signal" hsignal (by rfl),
    optional?_present "startedAt" hstarted (by rfl),
    optional?_present "finishedAt" hfinished (by rfl)]
  simp [truncate]

theorem ContainerState.keeps : Keeps ofJson? toJson truncate := by
  intro json state h
  simp only [ofJson?, Option.bind_eq_bind, Option.bind_eq_some_iff] at h
  obtain ⟨fields, -, waiting, hwaiting, running, hrunning, terminated, hterminated, heq⟩ := h
  obtain rfl := Option.some.inj heq
  replace hwaiting := Waiting.keeps.optional hwaiting
  replace hrunning := Running.keeps.optional hrunning
  replace hterminated := Terminated.keeps.optional hterminated
  refine ⟨isPlain_present ⟨hrunning.plain, hterminated.plain, hwaiting.plain, trivial⟩, nofun, ?_⟩
  rw [toJson, present, ofJson?, obj?, Option.bind_eq_bind, Option.bind_some,
    optional?_present "waiting" hwaiting (by rfl), optional?_present "running" hrunning (by rfl),
    optional?_present "terminated" hterminated (by rfl)]
  simp [truncate]

theorem ContainerStatus.keeps : Keeps ofJson? toJson truncate := by
  intro json status h
  simp only [ofJson?, Option.bind_eq_bind, Option.bind_eq_some_iff] at h
  obtain ⟨fields, -, name, hname, image, himage, imageID, himageID, ready, hready, count, hcount,
    state, hstate, last, hlast, heq⟩ := h
  obtain rfl := Option.some.inj heq
  replace hname := keeps_str.orDefault (kept_str "") hname
  replace himage := keeps_str.orDefault (kept_str "") himage
  replace himageID := keeps_str.orDefault (kept_str "") himageID
  replace hready := keeps_bool.orDefault (kept_bool false) hready
  replace hcount := keeps_int32.orDefault ⟨rfl, nofun, rfl⟩ hcount
  replace hstate := ContainerState.keeps.optional hstate
  replace hlast := ContainerState.keeps.optional hlast
  refine ⟨isPlain_present ⟨himage.ifAny.plain, himageID.ifAny.plain, hlast.plain, hname.ifAny.plain,
    hready.ifAny.plain, hcount.ifAny.plain, hstate.plain, trivial⟩, nofun, ?_⟩
  rw [toJson, present, ofJson?, obj?, Option.bind_eq_bind, Option.bind_some,
    orDefault?_present "name" hname (by rfl), orDefault?_present "image" himage (by rfl),
    orDefault?_present "imageID" himageID (by rfl), orDefault?_present "ready" hready (by rfl),
    orDefault?_present "restartCount" hcount (by rfl), optional?_present "state" hstate (by rfl),
    optional?_present "lastState" hlast (by rfl)]
  simp [truncate]

theorem PodStatus.keeps : Keeps ofJson? toJson truncate := by
  intro json status h
  simp only [ofJson?, Option.bind_eq_bind, Option.bind_eq_some_iff] at h
  obtain ⟨fields, -, phase, hphase, started, hstarted, conditions, hconditions, main, hmain, inits,
    hinits, others, hothers, heq⟩ := h
  obtain rfl := Option.some.inj heq
  replace hphase := keeps_str.optional hphase
  replace hstarted := keeps_instant.optional hstarted
  replace hconditions := Condition.keeps.listOf.optional hconditions
  replace hmain := ContainerStatus.keeps.listOf.optional hmain
  replace hinits := ContainerStatus.keeps.listOf.optional hinits
  replace hothers := ContainerStatus.keeps.listOf.optional hothers
  refine ⟨isPlain_present ⟨hconditions.plain, hmain.plain, hothers.plain, hinits.plain,
    hphase.plain, hstarted.plain, trivial⟩, nofun, ?_⟩
  simp only [toJson, present, ofJson?, obj?, Option.bind_eq_bind, Option.bind_some]
  rw [optional?_present "phase" hphase (by rfl), optional?_present "startTime" hstarted (by rfl),
    optional?_present "conditions" hconditions (by rfl),
    optional?_present "containerStatuses" hmain (by rfl),
    optional?_present "initContainerStatuses" hinits (by rfl),
    optional?_present "ephemeralContainerStatuses" hothers (by rfl)]
  simp [truncate]

namespace Pod

theorem storable_of_ofJson? {json : Json} {pod : Pod} (h : Resource.ofJson? json = some pod) :
    Resource.Storable pod := by
  simp only [Resource.ofJson?, Resource.ofFields?, Option.bind_eq_bind,
    Option.bind_eq_some_iff] at h
  obtain ⟨fields, -, -, -, -, -, metadata, hmetadata, status, hstatus, heq⟩ := h
  obtain rfl := Option.some.inj heq
  replace hmetadata := Metadata.keeps.orDefault (Metadata.keeps (.obj []) {} rfl) hmetadata
  replace hstatus := PodStatus.keeps.optional hstatus
  refine ⟨isPlain_present ⟨(kept_str _).ifAny.plain, (kept_str _).ifAny.plain,
    hmetadata.ifAny.plain, hstatus.plain, trivial⟩, ?_⟩
  rw [Resource.ofJson?, Resource.toJson, present, obj?, Option.bind_eq_bind, Option.bind_some,
    constant?_present "apiVersion" (by rfl), constant?_present "kind" (by rfl)]
  simp only [Resource.ofFields?, Option.bind_eq_bind, Option.bind_some]
  rw [orDefault?_present "metadata" hmetadata (by rfl),
    optional?_present "status" hstatus (by rfl)]
  rfl

theorem storable_of_mem_decodeOrEmpty {bytes : Option ByteArray} {pod : Pod}
    (h : pod ∈ (Collection.decodeOrEmpty bytes : List Pod)) : Resource.Storable pod := by
  rw [Collection.decodeOrEmpty] at h
  cases hpods : bytes.bind (Resource.decodeAll? (K := Pod)) with
  | none =>
      rw [hpods] at h
      cases h
  | some pods =>
      rw [hpods, Option.getD_some] at h
      simp only [Resource.decodeAll?, listOf?, Option.bind_eq_bind,
        Option.bind_eq_some_iff] at hpods
      obtain ⟨_, -, _, -, items, -, hitems⟩ := hpods
      obtain ⟨json, hjson⟩ := exists_of_mapM hitems h
      exact storable_of_ofJson? hjson

end Pod
end RunMonitor
