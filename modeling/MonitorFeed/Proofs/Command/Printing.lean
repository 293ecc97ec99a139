import MonitorFeed.Proofs.Command.Session
import MonitorFeed.Proofs.Feeder.Trace
import MonitorFeed.Proofs.Payload.RoundTrip
import MonitorFeed.Proofs.Schema.Printing
import MonitorFeed.Proofs.Text.Utf8

/-!
What commands print of payloads. It is the text that carries the payload with white space between
its tokens, and a reader of the output comes to what the client returned.
-/

namespace MonitorFeed

open Json (Blank)

theorem Payload.hasFiniteFallbacks_schema (payload : Payload) :
    (Document.schema : Schema payload.Value).hasFiniteFallbacks = true := by
  cases payload <;> rfl

namespace Document

variable {α : Type} [Document α]

/-- What is decoded is decoded again from what is printed of it. -/
theorem decode_of_prints (regular : (schema : Schema α).isRegular = true)
    (sound : (schema : Schema α).hasFiniteFallbacks = true) {value : α}
    {text line lines after : String} (prints : schema.Prints value line lines)
    (given : decode text = .ok value) (blank : Blank after.toList)
    (back : ∀ x ∈ doubles value, Decimal.isFinite x = true → ReadsBack x) :
    decode (lines ++ after) = .ok value :=
  prints.read_of_read regular sound blank back given

theorem decodeList_of_prints (regular : (schema : Schema α).isRegular = true)
    (sound : (schema : Schema α).hasFiniteFallbacks = true) {values : List α}
    {text line lines after : String} (prints : (Schema.list schema).Prints values line lines)
    (given : decodeList text = .ok values) (blank : Blank after.toList)
    (back : ∀ value ∈ values, ∀ x ∈ doubles value, Decimal.isFinite x = true → ReadsBack x) :
    decodeList (lines ++ after) = .ok values := by
  refine prints.readMany_of_readMany regular sound blank ?_ given
  intro x member
  obtain ⟨value, held, double⟩ := List.mem_flatMap.mp member
  exact back value held x double

end Document

section Answers

variable {σ : Type} {around : Surroundings σ} {progress : Progress σ}

theorem Reply.result_bind_eq_ok_iff {α : Type} {reply : Reply}
    {read : String → Except ClientError α} {value : α} :
    reply.result.bind read = .ok value ↔
      ∃ text, reply = .answered text ∧ read text = .ok value := by
  cases reply <;> simp [result, Except.bind]

namespace Client

theorem understood_eq_ok_iff {α : Type} {read : Except Json.Error α} {value : α} :
    understood read = .ok value ↔ read = .ok value := by
  cases read <;> simp [understood, Except.mapError]

/-- A listing that succeeds is the one that an answer carries. -/
theorem listMetrics_eq_ok_iff {metrics : List MetricDescriptor} :
    ((listMetrics around).run progress).1 = .ok metrics ↔
      ∃ text, (around.respond .list progress.state).reply = .answered text ∧
        Document.decodeList text = .ok metrics := by
  rw [run_listMetrics]
  simp only [Reply.result_bind_eq_ok_iff, understood_eq_ok_iff]

/-- A test that succeeds comes to the resource that an answer carries. -/
theorem test_eq_ok_iff {resource echoed : Resource} :
    ((test around resource).run progress).1 = .ok echoed ↔
      ∃ text, (around.respond (.test (Document.encode resource)) progress.state).reply =
          .answered text ∧
        Document.decode text = .ok echoed := by
  rw [run_test]
  simp only [Reply.result_bind_eq_ok_iff, understood_eq_ok_iff]

end Client

end Answers

namespace Command

variable {σ : Type}

/-- Where a run stands once it has tried to open a session. -/
theorem run_connect_eq (around : Surroundings σ) (settings : Settings) (start : σ) :
    ((Client.connect around settings.credentials).run (.start start)).2 =
      connected around settings (.start start) := by
  rw [Client.run_connect]
  rfl

section Success

variable {around : Surroundings σ} {settings : Settings} {outlet : Outlet}
  {work : Session σ (Except ClientError String)} {start : σ} {text : String}

/-- Work that succeeds within a session comes to a text, and the outlet gains it as a line. -/
theorem exists_of_inSession_ok
    (succeeds : ((inSession around settings outlet work).run (.start start)).1.1 = .ok ()) :
    ∃ text,
      (work.run ((Client.connect around settings.credentials).run (.start start)).2).1 = .ok text ∧
      ((inSession around settings outlet work).run (.start start)).1.2.written =
        outlet.written ++ Text.Utf8.encode (text ++ "\n").toList := by
  rw [run_connect_eq]
  cases greeted : (around.respond (opening settings) start).reply.result with
  | error fault =>
    have refused : ((inSession around settings outlet work).run (.start start)).1 = _ :=
      (inSession_refused greeted).2
    rw [refused] at succeeds
    cases succeeds
  | ok greeting =>
    have told : Told outlet (work.run (connected around settings (.start start))).1
        ((inSession around settings outlet work).run (.start start)).1 :=
      (inSession_opened (Reply.answered_of_result greeted)).2
    obtain ⟨text, worked, -, grown⟩ := told.of_ok succeeds
    exact ⟨text, worked, congrArg Outlet.written grown⟩

/-- Work that comes to a text succeeds within a session, if the session opens and nothing limits
the outlet. -/
theorem inSession_ok {greeting : String}
    (greeted : (around.respond (opening settings) start).reply = .answered greeting)
    (worked : (work.run (connected around settings (.start start))).1 = .ok text)
    (free : outlet.limit = none) :
    ((inSession around settings outlet work).run (.start start)).1.1 = .ok () := by
  have told : Told outlet (work.run (connected around settings (.start start))).1
      ((inSession around settings outlet work).run (.start start)).1 := (inSession_opened greeted).2
  rw [told.written text worked (Outlet.takes_of_unlimited free _)]

/-- A listing that succeeds comes to the text of the metrics. -/
theorem listAll_eq_ok_iff {progress : Progress σ} :
    ((listAll around).run progress).1 = .ok text ↔
      ∃ metrics, ((Client.listMetrics around).run progress).1 = .ok metrics ∧
        Document.encodeListPretty metrics = text :=
  map_eq_ok_iff

/-- A test that succeeds has loaded its resource, and comes to the text of the echo. -/
theorem testFile_eq_ok_iff {file : String} {progress : Progress σ} :
    ((testFile around file).run progress).1 = .ok text ↔
      ∃ resource echoed, Document.load (around.storage progress.state) file = .ok resource ∧
        ((Client.test around resource).run progress).1 = .ok echoed ∧
        Document.encodePretty echoed = text := by
  rw [run_testFile]
  cases loaded : Document.load (α := Resource) (around.storage progress.state) file with
  | error fault =>
    constructor
    · intro worked
      cases worked
    · rintro ⟨resource, echoed, same, -⟩
      cases same
  | ok resource =>
    have ran : ((do return (← Client.test around resource).map Document.encodePretty :
        Session σ _).run progress).1 =
          ((Client.test around resource).run progress).1.map Document.encodePretty := rfl
    simp only [ran, map_eq_ok_iff, Except.ok.injEq]
    exact ⟨fun ⟨echoed, tested, printed⟩ => ⟨resource, echoed, rfl, tested, printed⟩,
      fun ⟨_, echoed, same, tested, printed⟩ => ⟨echoed, same ▸ tested, printed⟩⟩

end Success

/-- What is printed of a payload or of a list of payloads is what carries it with white space put in
outside strings, whatever order the entries of tables stand in, and both are read alike. What a
listing or a test writes is therefore read as what the client returned, and so it would be with the
entries of tables in another order. -/
theorem printed_reads_back (around : Surroundings σ) (settings : Settings) (outlet : Outlet) :
    (∀ (payload : Payload) (value : payload.Value),
      Json.despace .outside (Document.encodePretty value).toList =
        (Document.encode value).toList ∧
      ∀ line lines, Document.schema.Prints value line lines →
        Json.despace .outside lines.toList = line.toList ∧
        ∀ after : String, Blank after.toList →
          (Document.decode (lines ++ after) : Except _ payload.Value).toOption =
            (Document.decode line).toOption) ∧
    (∀ (payload : Payload) (values : List payload.Value),
      Json.despace .outside (Document.encodeListPretty values).toList =
        ((Schema.list Document.schema).write values).toList ∧
      ∀ line lines, (Schema.list Document.schema).Prints values line lines →
        Json.despace .outside lines.toList = line.toList ∧
        ∀ after : String, Blank after.toList →
          (Document.decodeList (lines ++ after) : Except _ (List payload.Value)).toOption =
            (Document.decodeList line).toOption) ∧
    ∀ start,
      let opened := ((Client.connect around settings.credentials).run (.start start)).2
      let listing := (execute around settings outlet .listMetrics).run (.start start)
      let testing file :=
        (execute around settings outlet (.testResource file)).run (.start start)
      (listing.1.1 = .ok () → ∃ metrics text,
        ((Client.listMetrics around).run opened).1 = .ok metrics ∧
        text = Document.encodeListPretty metrics ++ "\n" ∧
        listing.1.2.written = outlet.written ++ Text.Utf8.encode text.toList ∧
        ((∀ metric ∈ metrics, ∀ x ∈ Document.doubles metric,
            Decimal.isFinite x = true → ReadsBack x) →
          Document.decodeList text = .ok metrics ∧
          ∀ line lines, (Schema.list Document.schema).Prints metrics line lines →
            Document.decodeList (lines ++ "\n") = .ok metrics)) ∧
      ∀ file, (testing file).1.1 = .ok () → ∃ resource echoed text,
        Document.load (around.storage opened.state) file = .ok resource ∧
        ((Client.test around resource).run opened).1 = .ok echoed ∧
        text = Document.encodePretty echoed ++ "\n" ∧
        (testing file).1.2.written = outlet.written ++ Text.Utf8.encode text.toList ∧
        ((∀ x ∈ Document.doubles echoed, Decimal.isFinite x = true → ReadsBack x) →
          Document.decode text = .ok echoed ∧
          ∀ line lines, Document.schema.Prints echoed line lines →
            Document.decode (lines ++ "\n") = .ok echoed) := by
  have newline : Blank "\n".toList := Json.blank_newline
  refine ⟨fun payload value => ⟨?_, fun line lines prints => ⟨prints.despace, fun after blank => ?_⟩⟩,
    fun payload values => ⟨?_, fun line lines prints => ⟨prints.despace, fun after blank => ?_⟩⟩,
    fun start => ⟨fun succeeds => ?_, fun file succeeds => ?_⟩⟩
  · exact (Schema.prints_write _ value).despace
  · exact prints.toOption_read blank
  · exact (Schema.prints_write _ values).despace
  · exact prints.toOption_readMany blank
  · obtain ⟨text, worked, written⟩ := exists_of_inSession_ok succeeds
    obtain ⟨metrics, listed, rfl⟩ := listAll_eq_ok_iff.mp worked
    obtain ⟨answer, -, read⟩ := Client.listMetrics_eq_ok_iff.mp listed
    refine ⟨metrics, _, listed, rfl, written, fun back => ?_⟩
    have again {line lines : String}
        (prints : (Schema.list Document.schema).Prints metrics line lines) :
        Document.decodeList (lines ++ "\n") = .ok metrics :=
      Document.decodeList_of_prints (Payload.isRegular_schema .descriptor)
        (Payload.hasFiniteFallbacks_schema .descriptor) prints read newline back
    exact ⟨again (Schema.prints_write _ metrics), fun line lines => again⟩
  · obtain ⟨text, worked, written⟩ := exists_of_inSession_ok succeeds
    obtain ⟨resource, echoed, loaded, tested, rfl⟩ := testFile_eq_ok_iff.mp worked
    obtain ⟨answer, -, read⟩ := Client.test_eq_ok_iff.mp tested
    refine ⟨resource, echoed, _, loaded, tested, rfl, written, fun back => ?_⟩
    have again {line lines : String} (prints : Document.schema.Prints echoed line lines) :
        Document.decode (lines ++ "\n") = .ok echoed :=
      Document.decode_of_prints (Payload.isRegular_schema .resource)
        (Payload.hasFiniteFallbacks_schema .resource) prints read newline back
    exact ⟨again (Schema.prints_write _ echoed), fun line lines => again⟩

/-- A metric whose name holds quotes, braces and white space, with a limit and labels. -/
def quotedLoad : MetricDescriptor :=
  { MetricDescriptor.named "load \"\x7b 1 \x7d\" " with
    thresholds := [⟨.warning, "hot", .ofDouble 1.5⟩]
    labels := Table.ofList [("zone", "east"), ("core", "")] }

/-- A host with a measured property. -/
def measuredHost : Resource :=
  (Resource.checked "host" .host .hostUp .epoch).withProperty "speed" (.ofDouble 2.5)

/-- A stand-in that lists the one and echoes the other. -/
def telling : StandIn :=
  { StandIn.fresh with
    listing := (Schema.list Document.schema).write [quotedLoad]
    echo := some (Document.encode measuredHost) }

/-- The stand-in with the host in a file. -/
def desk : Surroundings StandIn where
  respond := StandIn.respond
  storage _ path :=
    if path = "host.json" then .file (Text.Utf8.encode (Document.encode measuredHost).toList)
    else .missing .notFound
  draw := Draw.numbered 7 .epoch

theorem printed_reads_back_telling :
    let settings := Feeder.shortRun.settings
    ((execute desk settings .unlimited .listMetrics).run (.start telling)).1.1 = .ok () ∧
    ((execute desk settings .unlimited (.testResource "host.json")).run (.start telling)).1.1 =
      .ok () ∧
    (∀ x ∈ Document.doubles quotedLoad, Decimal.isFinite x = true → ReadsBack x) ∧
    (∀ x ∈ Document.doubles measuredHost, Decimal.isFinite x = true → ReadsBack x) ∧
    Document.decodeList (Document.encodeListPretty [quotedLoad] ++ "\n") = .ok [quotedLoad] ∧
    Document.decode (Document.encodePretty measuredHost ++ "\n") = .ok measuredHost := by
  intro settings
  have backLoad : ∀ x ∈ Document.doubles quotedLoad, Decimal.isFinite x = true → ReadsBack x := by
    have doubles : Document.doubles quotedLoad = [1.5] := rfl
    rw [doubles, List.forall_mem_singleton]
    exact fun _ => rfl
  have backHost : ∀ x ∈ Document.doubles measuredHost,
      Decimal.isFinite x = true → ReadsBack x := by
    have doubles : Document.doubles measuredHost = [2.5] := rfl
    rw [doubles, List.forall_mem_singleton]
    exact fun _ => rfl
  have heardLoad : Document.decodeList telling.listing = .ok [quotedLoad] := by
    have prints := (Schema.list Document.schema).prints_write [quotedLoad]
    have newline : Blank "\n".toList := Json.blank_newline
    have lines := prints.readMany (Payload.isRegular_schema .descriptor) newline backLoad
    rw [← toOption_eq_some_iff, prints.toOption_readMany newline] at lines
    exact toOption_eq_some_iff.mp lines
  have heardHost : Document.decode (Document.encode measuredHost) = .ok measuredHost :=
    Document.decode_of_carries (Payload.isRegular_schema .resource) (Document.carries_encode _)
      backHost
  have greeted : (desk.respond (opening settings) telling).reply = .answered "" := rfl
  have listed : ((Client.listMetrics desk).run (connected desk settings (.start telling))).1 =
      .ok [quotedLoad] :=
    Client.listMetrics_eq_ok_iff.mpr ⟨_, rfl, heardLoad⟩
  have tested (resource : Resource) :
      ((Client.test desk resource).run (connected desk settings (.start telling))).1 =
        .ok measuredHost :=
    Client.test_eq_ok_iff.mpr ⟨_, rfl, heardHost⟩
  have loaded : Document.load (desk.storage (connected desk settings (.start telling)).state)
      "host.json" = .ok measuredHost := by
    refine Document.load_eq_ok_iff.mpr ⟨_, ?_, heardHost⟩
    simp only [Storage.readText, desk, ↓reduceIte, Text.Utf8.decode?_encode, String.ofList_toList]
  have listing : ((execute desk settings .unlimited .listMetrics).run (.start telling)).1.1 =
      .ok () := by
    rw [execute]
    exact inSession_ok greeted (listAll_eq_ok_iff.mpr ⟨_, listed, rfl⟩) rfl
  have testing : ((execute desk settings .unlimited (.testResource "host.json")).run
      (.start telling)).1.1 = .ok () := by
    rw [execute]
    exact inSession_ok greeted (testFile_eq_ok_iff.mpr ⟨_, _, loaded, tested _, rfl⟩) rfl
  obtain ⟨-, -, printed⟩ := printed_reads_back desk settings .unlimited
  obtain ⟨list, test⟩ := printed telling
  simp only [run_connect_eq] at list test
  obtain ⟨metrics, text, facade, rfl, -, readLoad⟩ := list listing
  obtain ⟨resource, echoed, text, -, echo, rfl, -, readHost⟩ := test "host.json" testing
  obtain rfl := Except.ok.inj (listed.symm.trans facade)
  obtain rfl := Except.ok.inj ((tested resource).symm.trans echo)
  exact ⟨listing, testing, backLoad, backHost,
    (readLoad (List.forall_mem_singleton.mpr backLoad)).1, (readHost backHost).1⟩

end Command

end MonitorFeed
