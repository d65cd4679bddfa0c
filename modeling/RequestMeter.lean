import RequestMeter.Exchange.Traffic
import RequestMeter.Http.Measured
import RequestMeter.Main
import RequestMeter.Proofs.Exchange.Recording
import RequestMeter.Proofs.Meter.ClosedForm
import RequestMeter.Proofs.Meter.Capacity
import RequestMeter.Proofs.Meter.Conservation
import RequestMeter.Proofs.Meter.Horizon
import RequestMeter.Meter.Checked
import RequestMeter.Proofs.Meter.Safety
import RequestMeter.Proofs.Meter.Census
import RequestMeter.Proofs.Report.Reading
import RequestMeter.Proofs.Http.Counting
import RequestMeter.Proofs.Exchange.Transparency
import RequestMeter.Proofs.Meter.Average
import RequestMeter.Proofs.Meter.Rate
import RequestMeter.Proofs.Meter.Visibility
import RequestMeter.Proofs.Meter.Permanence
import RequestMeter.Proofs.Meter.Widening
import RequestMeter.Proofs.Meter.Reordering
import RequestMeter.Proofs.Meter.Shift
import RequestMeter.Proofs.Number.Spelling
import RequestMeter.Proofs.Http.WindowQuery
import RequestMeter.Proofs.Config.Starting
import RequestMeter.Proofs.Report.RoundTrip
import RequestMeter.Proofs.Report.StatusTable
import RequestMeter.Proofs.Http.StatusReport
import RequestMeter.Proofs.Http.Pause
import RequestMeter.Proofs.Report.ShownLatency
import RequestMeter.Proofs.Config.Refusals
