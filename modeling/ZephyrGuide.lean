import ZephyrGuide.Kernel.System
import ZephyrGuide.Kernel.Sem
import ZephyrGuide.Kernel.Mutex
import ZephyrGuide.Semaphore.Model
import ZephyrGuide.Semaphore.Buffer
import ZephyrGuide.Semaphore.Progress
import ZephyrGuide.Mutex.Model
import ZephyrGuide.Mutex.Counter
import ZephyrGuide.Mutex.Progress
import ZephyrGuide.Tracing.Model
import ZephyrGuide.Tracing.Handoff
import ZephyrGuide.Tracing.Progress
import ZephyrGuide.Kernel.Msgq
import ZephyrGuide.Msgq.Model
import ZephyrGuide.Msgq.Delivery
import ZephyrGuide.Msgq.Progress
import ZephyrGuide.Kernel.RingBuf
import ZephyrGuide.Uart.Model
import ZephyrGuide.Uart.Wakeup
import ZephyrGuide.Uart.Editor
import ZephyrGuide.Uart.Echo
import ZephyrGuide.Zbus.Model
import ZephyrGuide.Zbus.Reads
import ZephyrGuide.Zbus.Display
import ZephyrGuide.Libc.Printf
import ZephyrGuide.Mqtt.Model
import ZephyrGuide.Mqtt.Connect
import ZephyrGuide.Mqtt.Payload
import ZephyrGuide.Shell.Model
import ZephyrGuide.Shell.Reading
import ZephyrGuide.Ble.Model
import ZephyrGuide.Ble.Sensors
import ZephyrGuide.I2c.Sensor
import ZephyrGuide.Tcp.Client
import ZephyrGuide.Kernel.Work
import ZephyrGuide.Gpio.Button
import ZephyrGuide.Libc.String
import ZephyrGuide.Mqtt.Message
import ZephyrGuide.NativeSim.Model
import ZephyrGuide.NativeSim.Output
import ZephyrGuide.Logging.Cycle
import ZephyrGuide.Kernel.Slab
import ZephyrGuide.Memory.Demo
import ZephyrGuide.Workqueue.Model
import ZephyrGuide.Workqueue.Handlers
