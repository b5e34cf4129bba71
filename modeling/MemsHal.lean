import MemsHal.Run
import MemsHal.Clients
import MemsHal.StdMap
import MemsHal.LossyFifo
import MemsHal.TaggedWord
import MemsHal.OwnedLog
import MemsHal.Outbox
import MemsHal.CountedLock
import MemsHal.ByteMemory
import MemsHal.Codec
import MemsHal.CharClass
import MemsHal.FloatRound
import MemsHal.Rotations
import MemsHal.Kalman
import MemsHal.SensorCore
import MemsHal.SensorList
import MemsHal.CoreRate
import MemsHal.ChannelPower
import MemsHal.Smi330Odr
import MemsHal.Quat
import MemsHal.GravityFusion
import MemsHal.GravityUpdate
import MemsHal.GravityAlign
import MemsHal.GravityTime
import MemsHal.GravityDivisions
import MemsHal.Sensor
import MemsHal.SensorHal
import MemsHal.RawSysfs
import MemsHal.GravityPeriod
import MemsHal.SensorPower
import MemsHal.SensorRate
import MemsHal.HalProxy
import MemsHal.ProxyFifo
import MemsHal.ProxyWakelock
import MemsHal.ProxyObjects
import MemsHal.ProxyRefs
import MemsHal.ProxyReset
import MemsHal.ProxyRoute
import MemsHal.ProxyInit
import MemsHal.ProxyFrame
import MemsHal.ProxyLife
import MemsHal.ProxyBuffer
import MemsHal.ProxyDirect
import MemsHal.ProxyFlags
import MemsHal.ProxyModes
import MemsHal.ProxyDynamic
import MemsHal.AidlEvent
import MemsHal.ProxyPublished
import MemsHal.SensorsHalAidl
import MemsHal.HalPlacement
import MemsHal.HalChannels
import MemsHal.HalTables
import MemsHal.HalLatency
import MemsHal.HalHandles
import MemsHal.HalReads
import MemsHal.SensorDeadline
import MemsHal.SensorClock
import MemsHal.HalWakelock
import MemsHal.HalInit
import MemsHal.HalErrors
import MemsHal.HalFlush
import MemsHal.LockfreeBuffer
import MemsHal.ConvertUtils
import MemsHal.HalDirect
import MemsHal.ProxyInject
import MemsHal.GaussJordan
import MemsHal.MatInvert
import MemsHal.HalLocks
import MemsHal.ProxyLocks
import MemsHal.ProxyThreads
import MemsHal.SensorThread
import MemsHal.ProxyPosts
import MemsHal.ProxyStack
import MemsHal.AddSensors
import MemsHal.HidlMirrors
import MemsHal.Shipped
import MemsHal.ProxyDrain
import MemsHal.HardwarePower
