import AccessProbe.Proofs.Http.Carried
import AccessProbe.Proofs.Outcome
import AccessProbe.Proofs.Url.Resolve

/-! The error of a request is one printable line, wherever redirects have led the request. -/

namespace AccessProbe

/-- The location of a redirect from a printable URL is printable. -/
theorem Hop.printable_location {url next : Url} {response : Response} (printable : url.IsPrintable)
    (found : location? url response = some next) : next.IsPrintable := by
  -- Only a redirect has a location.
  unfold location? at found
  split at found
  · -- The server has written it, and it is joined to the printable URL, which makes any string printable.
    obtain ⟨named, _⟩ := Option.filter_eq_some_iff.mp found
    obtain ⟨text, _, joined⟩ := Option.bind_eq_some_iff.mp named
    cases read : url.join text with
    | error cause => simp [read, Except.toOption] at joined
    | ok place =>
      obtain rfl : place = next := by simpa [read, Except.toOption] using joined
      exact printable.join read
  · cases found

/-- All URLs of a trail that starts at a printable one are printable. -/
theorem Trail.printable {client : Client} {call : Call} {sightings : List Sighting}
    (trail : Trail client call sightings) (printable : call.url.IsPrintable) :
    ∀ sighting ∈ sightings, sighting.hop.url.IsPrintable := by
  -- Every link goes from a printable URL to a printable one.
  intro sighting member
  obtain ⟨before, after, rfl⟩ := List.append_of_mem member
  refine trail.reaches (P := fun hop => hop.url.IsPrintable) printable fun earlier _ next leads shown => ?_
  obtain ⟨response, url, _, _, found, goes⟩ := leads
  have place := Hop.printable_location shown found
  -- The next request goes to the location, whether its body is dropped or not.
  rw [goes, Hop.redirected]
  split <;> exact place

/-- A response comes from a printable URL, after any number of redirects. -/
theorem Wire.Delivers.printable {wire later : Wire} {client : Client} {call : Call} {url : Url}
    {response : Response} (delivered : wire.Delivers client call (some (.ok (url, response))) later)
    (printable : call.url.IsPrintable) : url.IsPrintable := by
  -- The response answers the last request of the trail.
  cases delivered with
  | seen _ _ trail _ ends =>
    obtain ⟨last, isLast, ends⟩ := ends
    cases ends with
    | answered _ _ => exact trail.printable printable last (List.mem_of_getLast? isLast)

/-- The causes of a failed exchange are printable. -/
theorem ExchangeError.printable_chain (cause : ExchangeError) :
    ∀ text ∈ cause.chain, Printable text.toList := by
  -- They are fixed strings, one list per kind of failure.
  rcases cause with (_ | _) | _ | _ | _ | _ | _
  all_goals decide

/-- The causes of a failed request are printable. -/
theorem SendError.printable_chain {cause : SendError} (printable : cause.url.IsPrintable) :
    ∀ text ∈ cause.chain, Printable text.toList := by
  -- The only part that is not a fixed string is the URL, without its user info.
  have address : Printable (" for url (" ++ cause.url.withoutUser.text ++ ")").toList := by
    simp only [String.toList_append, Printable.append_iff]
    exact ⟨⟨by decide, printable.withoutUser.text⟩, by decide⟩
  have behind {first : String} (shown : Printable first.toList) :
      Printable (first ++ (" for url (" ++ cause.url.withoutUser.text ++ ")")).toList := by
    rw [String.toList_append, Printable.append_iff]
    exact ⟨shown, address⟩
  -- Each kind of error has its own beginning, followed by the URL.
  simp only [chain]
  split
  · rename_i reason _
    exact List.forall_mem_cons.mpr ⟨behind (by decide), reason.printable_chain⟩
  · exact List.forall_mem_cons.mpr ⟨behind (by decide), by decide⟩
  · exact List.forall_mem_cons.mpr ⟨behind (by decide), by decide⟩

/-- The causes of a body that can't be read are printable. -/
theorem BodyError.printable_chain {cause : BodyError} (printable : cause.url.IsPrintable) :
    ∀ text ∈ cause.chain, Printable text.toList := by
  -- The URL is again the only part that is not fixed.
  unfold chain
  split
  · refine List.forall_mem_cons.mpr ⟨?_, by decide⟩
    simp only [String.toList_append, Printable.append_iff]
    exact ⟨⟨by decide, printable.withoutUser.text⟩, by decide⟩
  · decide

/-- The name of a request in errors is printable. -/
theorem Errand.printable_name (errand : Errand) : Printable errand.name.toList := by
  -- There are three names.
  cases errand with
  | login => decide
  | registration => decide
  | look path => exact (by decide : Printable "request".toList)

/-- The error of a request to a printable URL is one printable line. -/
theorem Errand.printable_line {errand : Errand} {wire : Wire} {client : Client} {call : Call} {error : ProbeError}
    (printable : call.url.IsPrintable) (fails : wire.Attempted client errand call (some (.error error))) :
    Printable error.line.toList := by
  -- A line joins the causes of an error by colons, so it is enough that each cause is printable.
  have joined (chain : List String) (each : ∀ text ∈ chain, Printable text.toList) :
      Printable (String.intercalate ": " chain).toList := by
    rw [String.toList_intercalate]
    apply Printable.intercalate (by decide)
    intro piece member
    obtain ⟨text, place, rfl⟩ := List.mem_map.mp member
    exact each text place
  apply joined
  cases fails with
  | unsent _ =>
    -- Without a response the error names the request, its URL and the cause.
    refine List.forall_mem_cons.mpr ⟨?_, SendError.printable_chain printable⟩
    simp only [String.toList_append, Printable.append_iff]
    exact ⟨⟨⟨by decide, errand.printable_name⟩, by decide⟩, printable.text⟩
  | unread brings _ =>
    -- The body that could not be read may come from the URL of a redirect.
    have elsewhere := brings.delivered.printable printable
    refine List.forall_mem_cons.mpr ⟨?_, BodyError.printable_chain elsewhere⟩
    simp only [String.toList_append, Printable.append_iff]
    exact ⟨by decide, printable.text⟩

end AccessProbe
