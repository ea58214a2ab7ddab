import MtcDrivers.Link.Proofs.WireProofs
import MtcDrivers.Link.Proofs.DecodeProofs
import MtcDrivers.Link.Proofs.IdleProofs
import MtcDrivers.Link.Proofs.AckProofs
import MtcDrivers.Link.Proofs.BufferProofs
import MtcDrivers.Link.Proofs.LiveProofs
import MtcDrivers.Irq.Proofs.BalanceProofs
import MtcDrivers.Irq.Proofs.ScriptProofs
import MtcDrivers.Ioctl.Proofs.DispatchProofs
import MtcDrivers.Ioctl.Proofs.ConfigProofs
import MtcDrivers.Radio.Proofs.PathProofs
import MtcDrivers.Radio.Proofs.StationProofs
import MtcDrivers.Radio.Proofs.StreamProofs
import MtcDrivers.Ioctl.Proofs.SetterProofs
import MtcDrivers.Ioctl.Proofs.AnswerProofs
import MtcDrivers.Audio.Proofs.RequestProofs
import MtcDrivers.Power.Proofs.RefcountProofs
import MtcDrivers.Camera.Proofs.EngineProofs
import MtcDrivers.Camera.Proofs.StandardProofs
import MtcDrivers.Radio.Proofs.BandProofs
import MtcDrivers.Radio.Proofs.TunerPowerProofs
import MtcDrivers.Radio.Proofs.AfListProofs
import MtcDrivers.Radio.Proofs.AfSearchProofs
import MtcDrivers.Audio.Proofs.VolumeProofs
import MtcDrivers.Audio.Proofs.OneSourceProofs
import MtcDrivers.Audio.Proofs.AnnouncementProofs
import MtcDrivers.Dvd.Proofs.HandshakeProofs
import MtcDrivers.Dvd.Proofs.InterruptProofs
import MtcDrivers.Dvd.Proofs.ScriptProofs
import MtcDrivers.Workers.Proofs.DeadlockProofs
import MtcDrivers.Vs.Proofs.SendProofs
import MtcDrivers.Lcd.Proofs.WorkProofs
import MtcDrivers.Touch.Proofs.ReleaseProofs
import MtcDrivers.Touch.Proofs.AverageProofs
import MtcDrivers.Car.Proofs.WheelProofs
import MtcDrivers.Ioctl.Proofs.ForwardProofs
import MtcDrivers.Ioctl.Proofs.BoundProofs
import MtcDrivers.Audio.Proofs.GateProofs
import MtcDrivers.Ioctl.Proofs.CanbusProofs
import MtcDrivers.Car.Proofs.SpreadProofs
import MtcDrivers.Car.Proofs.VersionProofs
import MtcDrivers.Car.Proofs.BlockingProofs
import MtcDrivers.Car.Proofs.DisplayProofs
import MtcDrivers.Car.Proofs.AgreementProofs
import MtcDrivers.Keys.Proofs.AdcKeyProofs
import MtcDrivers.Keys.Proofs.PressProofs
import MtcDrivers.Camera.Proofs.CalibrateProofs
import MtcDrivers.Camera.Proofs.ReportProofs
import MtcDrivers.Audio.Proofs.MutePinProofs
import MtcDrivers.Radio.Proofs.AfRingProofs
import MtcDrivers.Radio.Proofs.RadioTextProofs
import MtcDrivers.Radio.Proofs.SignalProofs
import MtcDrivers.Dvd.Proofs.TrackProofs
import MtcDrivers.Vs.Proofs.ProbeProofs
import MtcDrivers.Camera.Proofs.CompositeProofs
import MtcDrivers.Ioctl.Proofs.TokenProofs
import MtcDrivers.Timer.Proofs.TimeOutProofs
import MtcDrivers.Touch.Proofs.PairingProofs
import MtcDrivers.Keys.Proofs.TouchKeyProofs
import MtcDrivers.Dvd.Proofs.ListsProofs
import MtcDrivers.Dvd.Proofs.ListAnswerProofs
import MtcDrivers.Lcd.Proofs.ShowProofs
import MtcDrivers.Touch.Proofs.ToolReadProofs
import MtcDrivers.Touch.Proofs.ToolWriteProofs
import MtcDrivers.Ioctl.Proofs.ControlProofs
import MtcDrivers.Audio.Proofs.WorkerProofs
import MtcDrivers.Audio.Proofs.CalmProofs
import MtcDrivers.Audio.Proofs.FollowProofs
import MtcDrivers.Keys.Proofs.SendKeyProofs
import MtcDrivers.Vs.Proofs.RawProofs
import MtcDrivers.Ioctl.Proofs.SettingsProofs
import MtcDrivers.Power.Proofs.HandshakeProofs
import MtcDrivers.Car.Proofs.VideoSourceProofs
import MtcDrivers.Codec.Proofs.RegistersProofs
import MtcDrivers.Lcd.Proofs.PageProofs
